import ChatGateway.Proofs.Wire.Written
import ChatGateway.Stage.Chain

/-!
# What a chain writes

Some stages write the events of a message, and some let events pass as they are.  Behind stages of
the second kind, a stage of the first kind decides what comes out of a chain, whatever other stages
make of the chunks that it is given.
-/

namespace ChatGateway

namespace Stage

/-- Stages that write events around the deltas of a provider. -/
def WritesEvents (context : Context) : Stage → Prop
  | .openai => True
  | .gemini => True
  | .vertex families => Wire.Vertex.notedFamily families context = .gemini
  | _ => False

/-- Stages that let events pass. -/
def PassesEvents : Stage → Prop
  | .anthropic _ => True
  | .maxtoken _ => True
  | .cleancache => True
  | .enhancetool => True
  | _ => False

theorem exists_of_chunksOf {outcome : Except StageFault (List Event)} {chunks : List Chunk}
    (made : chunksOf outcome = .ok chunks) :
    ∃ events : List Event, outcome = .ok events ∧ chunks = events.map .ofEvent := by
  cases outcome with
  | error fault => cases made
  | ok events =>
      cases made
      exact ⟨events, rfl, rfl⟩

/-- Without a fault, a stage that writes makes chunks of events that may come next. -/
theorem emits_changeChunk {stage : Stage} {context : Context} (writes : stage.WritesEvents context)
    {writer next : EventWriter} (sound : writer.Sound) {chunk : Chunk} {supply left : Supply}
    {chunks : List Chunk}
    (changed : stage.changeChunk chunk context writer supply = (.ok chunks, next, left)) :
    ∃ events : List Event, chunks = events.map .ofEvent ∧ writer.Emits events next := by
  have generated {outcome : Except StageFault (List Event)} {middle : EventWriter} {rest : Supply}
      (found : Wire.GenerateContent.readChunk chunk context writer supply = (outcome, middle, rest))
      (read : (chunksOf outcome, middle, rest) = (.ok chunks, next, left)) :
      ∃ events : List Event, chunks = events.map .ofEvent ∧ writer.Emits events next := by
    simp only [Prod.mk.injEq] at read
    obtain ⟨made, rfl, rfl⟩ := read
    obtain ⟨events, rfl, rfl⟩ := exists_of_chunksOf made
    exact ⟨events, rfl, Wire.GenerateContent.emits_readChunk sound found⟩
  cases stage with
  | openai =>
      rcases found : Wire.ChatCompletions.readChunk chunk context writer with ⟨outcome, middle⟩
      simp only [changeChunk, found, Prod.mk.injEq] at changed
      obtain ⟨made, rfl, rfl⟩ := changed
      obtain ⟨events, rfl, rfl⟩ := exists_of_chunksOf made
      exact ⟨events, rfl, Wire.ChatCompletions.emits_readChunk sound found⟩
  | gemini =>
      rcases found : Wire.GenerateContent.readChunk chunk context writer supply with
        ⟨outcome, middle, rest⟩
      simp only [changeChunk, found] at changed
      exact generated found changed
  | vertex families =>
      have family : Wire.Vertex.notedFamily families context = .gemini := writes
      rcases found : Wire.GenerateContent.readChunk chunk context writer supply with
        ⟨outcome, middle, rest⟩
      simp only [changeChunk, family, found] at changed
      exact generated found changed
  | anthropic | maxtoken | cleancache | enhancetool => exact writes.elim

theorem changeChunk_of_passes {stage : Stage} (passes : stage.PassesEvents) {chunk : Chunk}
    (kept : chunk.isPing = false) (context : Context) (writer : EventWriter) (supply : Supply) :
    stage.changeChunk chunk context writer supply = (.ok [chunk], writer, supply) := by
  cases stage with
  | anthropic settings => simp [changeChunk, Wire.Messages.readChunk, kept]
  | maxtoken | cleancache | enhancetool => rfl
  | openai | gemini | vertex => exact passes.elim

end Stage

/-- What a writer makes is no ping. -/
theorem Event.Plain.isPing_ofEvent {event : Event} (plain : event.Plain) :
    (Chunk.ofEvent event).isPing = false := by
  cases plain <;>
    simp [Chunk.isPing, Chunk.kind?, Chunk.ofEvent, encode, name, Json.get?, Json.normalize,
      Json.normalizeFields, Json.string?, optionalField]

namespace Chain

/-- A stage that changes several chunks without a fault changes the first one and then the others. -/
theorem chunksThroughStage_cons_eq_ok {stage : Stage} {context : Context}
    {writer last : EventWriter} {supply left : Supply} {chunk : Chunk} {rest chunks : List Chunk}
    (changed : chunksThroughStage stage context writer supply (chunk :: rest) =
      (.ok chunks, last, left)) :
    ∃ earlier middle between later,
      stage.changeChunk chunk context writer supply = (.ok earlier, middle, between) ∧
        chunksThroughStage stage context middle between rest = (.ok later, last, left) ∧
        chunks = earlier ++ later := by
  rcases first : stage.changeChunk chunk context writer supply with ⟨outcome, middle, between⟩
  cases outcome with
  | error fault => simp [chunksThroughStage, first] at changed
  | ok earlier =>
      rcases others : chunksThroughStage stage context middle between rest with
        ⟨outcome, final, supply⟩
      cases outcome with
      | error fault => simp [chunksThroughStage, first, others] at changed
      | ok later =>
          simp only [chunksThroughStage, first, others, Prod.mk.injEq, Except.ok.injEq] at changed
          obtain ⟨rfl, rfl, rfl⟩ := changed
          exact ⟨earlier, middle, between, later, rfl, others, rfl⟩

theorem chunksThroughStage_append {stage : Stage} {context : Context}
    {writer middle last : EventWriter} {supply rest left : Supply}
    {given more chunks later : List Chunk}
    (first : chunksThroughStage stage context writer supply given = (.ok chunks, middle, rest))
    (second : chunksThroughStage stage context middle rest more = (.ok later, last, left)) :
    chunksThroughStage stage context writer supply (given ++ more) =
      (.ok (chunks ++ later), last, left) := by
  induction given generalizing writer supply chunks with
  | nil =>
      simp only [chunksThroughStage, Prod.mk.injEq, Except.ok.injEq] at first
      obtain ⟨rfl, rfl, rfl⟩ := first
      exact second
  | cons chunk given ih =>
      obtain ⟨head, next, between, tail, changed, others, rfl⟩ :=
        chunksThroughStage_cons_eq_ok first
      simp only [List.cons_append, chunksThroughStage, changed, ih others, List.append_assoc]

theorem emits_chunksThroughStage {stage : Stage} {context : Context}
    (writes : stage.WritesEvents context) {writer next : EventWriter} (sound : writer.Sound)
    {supply left : Supply} {given chunks : List Chunk}
    (changed : chunksThroughStage stage context writer supply given = (.ok chunks, next, left)) :
    ∃ events : List Event, chunks = events.map .ofEvent ∧ writer.Emits events next := by
  induction given generalizing writer supply chunks with
  | nil =>
      simp only [chunksThroughStage, Prod.mk.injEq, Except.ok.injEq] at changed
      obtain ⟨rfl, rfl, rfl⟩ := changed
      exact ⟨[], rfl, sound.emits_nil⟩
  | cons chunk rest ih =>
      obtain ⟨earlier, middle, between, later, first, others, rfl⟩ :=
        chunksThroughStage_cons_eq_ok changed
      obtain ⟨events, rfl, emits⟩ := Stage.emits_changeChunk writes sound first
      obtain ⟨more, rfl, goesOn⟩ := ih emits.sound others
      exact ⟨events ++ more, by simp, emits.append goesOn⟩

theorem chunksThroughStage_of_passes {stage : Stage} (passes : stage.PassesEvents)
    {chunks : List Chunk} (kept : ∀ chunk ∈ chunks, chunk.isPing = false) (context : Context)
    (writer : EventWriter) (supply : Supply) :
    chunksThroughStage stage context writer supply chunks = (.ok chunks, writer, supply) := by
  induction chunks with
  | nil => rfl
  | cons chunk rest ih =>
      have first := Stage.changeChunk_of_passes passes (kept chunk List.mem_cons_self) context
        writer supply
      have others : ∀ other ∈ rest, other.isPing = false := by
        intro other member
        exact kept other (.tail _ member)
      simp only [chunksThroughStage, first, ih others, List.singleton_append]

/-- Whether the writer of a stage that writes is behind the writers of stages that let events
pass. -/
inductive WrittenBy (context : Context) (writer : EventWriter) :
    List Stage → List EventWriter → Prop where
  | here {stage : Stage} {stages : List Stage} {writers : List EventWriter}
      (writes : stage.WritesEvents context) :
      WrittenBy context writer (stage :: stages) (writer :: writers)
  | behind {stage : Stage} {stages : List Stage} {other : EventWriter} {writers : List EventWriter}
      (passes : stage.PassesEvents) (written : WrittenBy context writer stages writers) :
      WrittenBy context writer (stage :: stages) (other :: writers)

/-- Without a failure, a stage changes what the stages behind it have made. -/
theorem chunkThrough_cons_eq_ok {stage : Stage} {stages : List Stage} {context : Context}
    {writer : EventWriter} {writers left : List EventWriter} {chunk : Chunk} {supply rest : Supply}
    {chunks : List Chunk}
    (changed : chunkThrough chunk context supply (stage :: stages) (writer :: writers) =
      (.ok chunks, left, rest)) :
    ∃ arrived others between next,
      chunkThrough chunk context supply stages writers = (.ok arrived, others, between) ∧
        chunksThroughStage stage context writer between arrived = (.ok chunks, next, rest) ∧
        left = next :: others := by
  rcases given : chunkThrough chunk context supply stages writers with ⟨outcome, others, between⟩
  cases outcome with
  | error cause => simp [chunkThrough, given] at changed
  | ok arrived =>
      rcases made : chunksThroughStage stage context writer between arrived with
        ⟨outcome, next, supply⟩
      cases outcome with
      | error fault => simp [chunkThrough, given, made] at changed
      | ok chunks =>
          simp only [chunkThrough, given, made, Prod.mk.injEq, Except.ok.injEq] at changed
          obtain ⟨rfl, rfl, rfl⟩ := changed
          exact ⟨arrived, others, between, next, rfl, made, rfl⟩

/-- Without a failure, what comes out of the chain are events that the writer may write next. -/
theorem emits_chunkThrough {context : Context} {writer : EventWriter} (sound : writer.Sound)
    {stages : List Stage} {writers left : List EventWriter}
    (written : WrittenBy context writer stages writers) {chunk : Chunk} {supply rest : Supply}
    {chunks : List Chunk}
    (changed : chunkThrough chunk context supply stages writers = (.ok chunks, left, rest)) :
    ∃ events next, chunks = events.map .ofEvent ∧ writer.Emits events next ∧
      WrittenBy context next stages left := by
  induction written generalizing left rest chunks with
  | here writes =>
      obtain ⟨arrived, others, between, next, -, made, rfl⟩ := chunkThrough_cons_eq_ok changed
      obtain ⟨events, rfl, emits⟩ := emits_chunksThroughStage writes sound made
      exact ⟨events, next, rfl, emits, .here writes⟩
  | @behind stage stages other writers passes written ih =>
      obtain ⟨arrived, others, between, last, given, made, rfl⟩ := chunkThrough_cons_eq_ok changed
      obtain ⟨events, next, rfl, emits, still⟩ := ih given
      have kept : ∀ chunk ∈ events.map Chunk.ofEvent, chunk.isPing = false := by
        intro chunk member
        obtain ⟨event, among, rfl⟩ := List.mem_map.mp member
        exact (emits.plain event among).isPing_ofEvent
      rw [chunksThroughStage_of_passes passes kept] at made
      cases made
      exact ⟨events, next, rfl, emits, .behind passes still⟩

theorem writtenBy_newWriters {context : Context} {before after : List Stage} {stage : Stage}
    (passes : ∀ other ∈ before, other.PassesEvents) (writes : stage.WritesEvents context) :
    WrittenBy context .new (before ++ stage :: after)
      (newWriters ⟨before ++ stage :: after⟩) := by
  induction before with
  | nil => exact .here writes
  | cons other rest ih =>
      apply WrittenBy.behind (passes other List.mem_cons_self)
      apply ih
      intro another member
      exact passes another (.tail _ member)

end Chain

end ChatGateway
