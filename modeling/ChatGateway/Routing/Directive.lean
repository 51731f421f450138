import ChatGateway.Message.Request
import ChatGateway.Text.Blank
import ChatGateway.Text.Search

/-!
# Directives

A system prompt may name the model of a sub-agent between two tags.  The directive is taken out
of the prompt before the prompt is sent.
-/

namespace ChatGateway.Directive

/-- The tag before a target. -/
def opening : String := "<subagent-model>"

/-- The tag after a target. -/
def closing : String := "</subagent-model>"

/-- The target of the first directive in a text, and the text without the directive and the blanks
after it. -/
def takeFromText? (text : String) : Option (String × String) := do
  let (before, rest) ← Text.cut? opening.toList text.toList
  let (target, after) ← Text.cut? closing.toList rest
  some (String.ofList (Text.trimChars target),
    String.ofList (before ++ after.dropWhile Text.isBlank))

/-- The target of the first directive in the text blocks of a list, and the blocks without it. -/
def takeFromBlocks? : List Block → Option (String × List Block)
  | [] => none
  | block :: rest =>
      let others := (takeFromBlocks? rest).map fun found => (found.1, block :: found.2)
      match block with
      | .text words cacheControl =>
          match takeFromText? words with
          | some (target, words) => some (target, .text words cacheControl :: rest)
          | none => others
      | _ => others

/-- The target of the first directive in a system prompt, and the prompt without it. -/
def takeFrom? : Content → Option (String × Content)
  | .text words => (takeFromText? words).map fun found => (found.1, .text found.2)
  | .blocks blocks => (takeFromBlocks? blocks).map fun found => (found.1, .blocks found.2)

/-- The target of the directive in a request, and the request without it. -/
def take? (request : Request) : Option (String × Request) := do
  let system ← request.system
  let (target, system) ← takeFrom? system
  some (target, { request with system := some system })

end ChatGateway.Directive
