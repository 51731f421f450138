/-!
# Dictionaries

Entries sorted by key, each key once, so that dictionaries with the same entries are equal.
Keys compare character by character.
-/

namespace ChatGateway

/-- Entries by increasing key. -/
abbrev Dictionary (α : Type) : Type := List (String × α)

namespace Dictionary

variable {α : Type}

/-- The value of a key, the first one of that key. -/
def get? (key : String) (entries : Dictionary α) : Option α :=
  (entries.find? fun entry => entry.1 == key).map Prod.snd

/-- Sets the value of a key. -/
def insert (key : String) (value : α) : Dictionary α → Dictionary α
  | [] => [(key, value)]
  | (other, old) :: rest =>
      if key = other then (key, value) :: rest
      else if key < other then (key, value) :: (other, old) :: rest
      else (other, old) :: insert key value rest

/-- The entries of all other keys. -/
def erase (key : String) (entries : Dictionary α) : Dictionary α :=
  entries.filter fun entry => entry.1 != key

/-- Sorts entries by key; of two entries of one key the later one stays. -/
def ofList (entries : List (String × α)) : Dictionary α :=
  entries.foldl (fun sorted entry => insert entry.1 entry.2 sorted) []

end Dictionary

end ChatGateway
