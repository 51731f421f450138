import ChatGateway.Stream.Frame

/-!
# The stretches between blank lines

A reader of frames takes bytes in portions and remembers how far it has looked.  What it cuts off
are the stretches between blank lines of all bytes that it has been given, wherever the portions
begin and end, and it keeps the last stretch, which no blank line has ended yet.
-/

namespace ChatGateway.FrameReader

/-! ## Stretches -/

/-- Puts a byte in front of the first stretch. -/
def lead (byte : UInt8) : List (List UInt8) → List (List UInt8)
  | [] => [[byte]]
  | stretch :: others => (byte :: stretch) :: others

/-- The stretches of bytes between blank lines, at least one.  Two line feeds make a blank line, and
each belongs to one at most. -/
def stretches : List UInt8 → List (List UInt8)
  | [] => [[]]
  | [byte] => [[byte]]
  | first :: second :: rest =>
      if first = 10 ∧ second = 10 then [] :: stretches rest
      else lead first (stretches (second :: rest))

theorem stretches_ne_nil (bytes : List UInt8) : stretches bytes ≠ [] := by
  fun_cases stretches bytes with
  | case1 | case2 | case3 => nofun
  | case4 first second rest other => cases stretches (second :: rest) <;> nofun

/-- The last stretch, and those before it. -/
theorem exists_stretches (bytes : List UInt8) :
    ∃ complete last, stretches bytes = complete ++ [last] :=
  ⟨_, _, (List.dropLast_concat_getLast (stretches_ne_nil bytes)).symm⟩

/-- The first stretch, and those after it. -/
theorem exists_stretches_cons (bytes : List UInt8) :
    ∃ stretch others, stretches bytes = stretch :: others :=
  List.exists_cons_of_ne_nil (stretches_ne_nil bytes)

theorem stretches_blank (rest : List UInt8) : stretches (10 :: 10 :: rest) = [] :: stretches rest :=
  if_pos ⟨rfl, rfl⟩

theorem stretches_of_not_blank {byte : UInt8} {rest : List UInt8}
    (other : ¬(byte = 10 ∧ rest.head? = some 10)) :
    stretches (byte :: rest) = lead byte (stretches rest) := by
  cases rest with
  | nil => rfl
  | cons next rest =>
      apply if_neg
      rintro ⟨first, second⟩
      exact other ⟨first, congrArg some second⟩

/-- Bytes without a blank line are one stretch. -/
theorem eq_of_stretches_eq_singleton {bytes stretch : List UInt8}
    (single : stretches bytes = [stretch]) : stretch = bytes := by
  fun_induction stretches bytes generalizing stretch with
  | case1 => exact (List.singleton_inj.mp single).symm
  | case2 byte => exact (List.singleton_inj.mp single).symm
  | case3 first second rest blank => exact (stretches_ne_nil rest (List.cons.inj single).2).elim
  | case4 first second rest other ih =>
      obtain ⟨following, others, found⟩ := exists_stretches_cons (second :: rest)
      rw [found, lead] at single
      obtain ⟨rfl, rfl⟩ := List.cons.inj single
      rw [ih found]

/-- Bytes without a blank line neither begin with one nor have one later. -/
theorem not_blank_of_single {byte : UInt8} {rest : List UInt8}
    (single : stretches (byte :: rest) = [byte :: rest]) :
    ¬(byte = 10 ∧ rest.head? = some 10) ∧ stretches rest = [rest] := by
  by_cases blank : byte = 10 ∧ rest.head? = some 10
  · obtain ⟨rfl, next⟩ := blank
    obtain ⟨rest, rfl⟩ := List.head?_eq_some_iff.mp next
    rw [stretches_blank] at single
    exact (stretches_ne_nil rest (List.cons.inj single).2).elim
  · obtain ⟨following, others, found⟩ := exists_stretches_cons rest
    rw [stretches_of_not_blank blank, found, lead] at single
    obtain ⟨same, rfl⟩ := List.cons.inj single
    exact ⟨blank, by rw [found, (List.cons.inj same).2]⟩

/-- Bytes without a line feed go before the first stretch. -/
theorem stretches_append_of_not_mem {line rest stretch : List UInt8} {others : List (List UInt8)}
    (absent : 10 ∉ line) (found : stretches rest = stretch :: others) :
    stretches (line ++ rest) = (line ++ stretch) :: others := by
  induction line with
  | nil => exact found
  | cons byte line ih =>
      rw [List.mem_cons, not_or] at absent
      have other : ¬(byte = 10 ∧ (line ++ rest).head? = some 10) :=
        fun blank => absent.1 blank.1.symm
      rw [List.cons_append, stretches_of_not_blank other, ih absent.2]
      rfl

/-- Two lines and a blank line are a stretch. -/
theorem stretches_two_lines {first second : List UInt8} (noFeed : 10 ∉ first)
    (alsoNone : 10 ∉ second) (filled : second ≠ []) (rest : List UInt8) :
    stretches (first ++ 10 :: (second ++ 10 :: 10 :: rest)) =
      (first ++ 10 :: second) :: stretches rest := by
  have later : stretches (second ++ 10 :: 10 :: rest) = second :: stretches rest := by
    rw [stretches_append_of_not_mem alsoNone (stretches_blank rest), List.append_nil]
  apply stretches_append_of_not_mem noFeed
  cases second with
  | nil => exact (filled rfl).elim
  | cons byte second =>
      have other : ¬((10 : UInt8) = 10 ∧ (byte :: second ++ 10 :: 10 :: rest).head? = some 10) := by
        rintro ⟨-, feed⟩
        cases feed
        exact alsoNone List.mem_cons_self
      rw [stretches_of_not_blank other, later]
      rfl

/-- Bytes that come later go on with the last stretch. -/
theorem stretches_append {bytes last : List UInt8} {complete : List (List UInt8)}
    (cut : stretches bytes = complete ++ [last]) (more : List UInt8) :
    stretches (bytes ++ more) = complete ++ stretches (last ++ more) := by
  fun_induction stretches bytes generalizing complete with
  | case1 | case2 =>
      cases complete with
      | nil =>
          cases cut
          rfl
      | cons => simp at cut
  | case3 first second rest blank ih =>
      obtain ⟨rfl, rfl⟩ := blank
      cases complete with
      | nil => exact (stretches_ne_nil rest (List.cons.inj cut).2).elim
      | cons stretch complete =>
          obtain ⟨rfl, others⟩ := List.cons.inj cut
          rw [List.cons_append, List.cons_append, stretches_blank, ih others]
          rfl
  | case4 first second rest other ih =>
      have longer : stretches (first :: (second :: rest ++ more)) =
          lead first (stretches (second :: rest ++ more)) :=
        stretches_of_not_blank fun blank => other ⟨blank.1, Option.some.inj blank.2⟩
      obtain ⟨following, others, found⟩ := exists_stretches_cons (second :: rest)
      rw [found, lead] at cut
      cases complete with
      | nil =>
          obtain ⟨rfl, rfl⟩ := List.cons.inj cut
          rw [eq_of_stretches_eq_singleton found]
          rfl
      | cons stretch complete =>
          obtain ⟨rfl, rfl⟩ := List.cons.inj cut
          have whole : stretches (second :: rest) = following :: complete ++ [last] := found
          rw [List.cons_append, longer, ih whole]
          rfl

/-- The last stretch has no blank line in it. -/
theorem stretches_last {bytes last : List UInt8} {complete : List (List UInt8)}
    (cut : stretches bytes = complete ++ [last]) : stretches last = [last] := by
  have again := stretches_append cut []
  rw [List.append_nil, List.append_nil, cut, List.append_cancel_left_eq] at again
  exact again.symm

/-- Of a stretch that goes on, only a last line feed may turn out to begin a blank line. -/
theorem exists_stretch_of_single {bytes : List UInt8} (single : stretches bytes = [bytes])
    (more : List UInt8) :
    ∃ stretch others, stretches (bytes ++ more) = stretch :: others ∧
      bytes.length ≤ stretch.length + 1 := by
  induction bytes with
  | nil =>
      obtain ⟨stretch, others, found⟩ := exists_stretches_cons more
      exact ⟨stretch, others, found, Nat.zero_le _⟩
  | cons byte rest ih =>
      obtain ⟨other, later⟩ := not_blank_of_single single
      by_cases blank : byte = 10 ∧ (rest ++ more).head? = some 10
      · -- Only the first of the later bytes can complete a blank line.
        cases rest with
        | nil =>
            obtain ⟨stretch, others, found⟩ := exists_stretches_cons ([byte] ++ more)
            exact ⟨stretch, others, found, Nat.le_add_left 1 _⟩
        | cons next rest => exact (other blank).elim
      · obtain ⟨stretch, others, found, short⟩ := ih later
        refine ⟨byte :: stretch, others, ?_, Nat.succ_le_succ short⟩
        rw [List.cons_append, stretches_of_not_blank blank, found]
        rfl

/-! ## Portions -/

theorem blankLineFrom?_eq_none {position : Nat} {bytes : List UInt8}
    (missing : blankLineFrom? position bytes = none) : stretches bytes = [bytes] := by
  induction bytes generalizing position with
  | nil => rfl
  | cons byte rest ih =>
      rw [blankLineFrom?] at missing
      split at missing
      · cases missing
      · rename_i other
        rw [stretches_of_not_blank other, ih missing]
        rfl

theorem blankLineFrom?_eq_some {position found : Nat} {bytes : List UInt8}
    (here : blankLineFrom? position bytes = some found) :
    position ≤ found ∧ stretches bytes =
      bytes.take (found - position) :: stretches (bytes.drop (found - position + 2)) := by
  induction bytes generalizing position with
  | nil => cases here
  | cons byte rest ih =>
      rw [blankLineFrom?] at here
      split at here
      · rename_i blank
        obtain ⟨rfl, next⟩ := blank
        cases here
        obtain ⟨rest, rfl⟩ := List.head?_eq_some_iff.mp next
        simp [stretches_blank]
      · rename_i other
        obtain ⟨after, cut⟩ := ih here
        obtain ⟨offset, rfl⟩ := Nat.exists_eq_add_of_le after
        rw [stretches_of_not_blank other, cut]
        have steps : position + 1 + offset - position = offset + 1 := by omega
        simp only [steps, Nat.add_sub_cancel_left]
        exact ⟨by omega, rfl⟩

/-- Bytes without a blank line need not be looked at again, apart from the last one. -/
theorem blankLineFrom?_append {held : List UInt8} (single : stretches held = [held])
    (more : List UInt8) (position : Nat) :
    blankLineFrom? (position + (held.length - 1)) ((held ++ more).drop (held.length - 1)) =
      blankLineFrom? position (held ++ more) := by
  induction held generalizing position with
  | nil => rfl
  | cons byte rest ih =>
      obtain ⟨other, later⟩ := not_blank_of_single single
      cases rest with
      | nil => rfl
      | cons next rest =>
          have unblank : ¬(byte = 10 ∧ (next :: rest ++ more).head? = some 10) := other
          rw [List.cons_append, blankLineFrom?, if_neg unblank, ← ih later,
            Nat.add_assoc position 1, Nat.add_comm 1]
          rfl

/-- Cutting gives the complete stretches and the last one. -/
theorem cut_eq {pieces : List (List UInt8)} {scanned : Nat} {bytes : List UInt8}
    (skips : blankLineFrom? scanned (bytes.drop scanned) = blankLineFrom? 0 bytes)
    {complete : List (List UInt8)} {last : List UInt8}
    (whole : stretches bytes = complete ++ [last]) :
    cut pieces scanned bytes = (complete.reverse ++ pieces, last) := by
  fun_induction cut pieces scanned bytes generalizing complete with
  | case1 pieces scanned bytes missing =>
      rw [skips] at missing
      have single := blankLineFrom?_eq_none missing
      rw [single] at whole
      cases complete with
      | nil =>
          cases whole
          rfl
      | cons => simp at whole
  | case2 pieces scanned bytes position found ih =>
      rw [skips] at found
      obtain ⟨-, first⟩ := blankLineFrom?_eq_some found
      rw [Nat.sub_zero] at first
      rw [first] at whole
      cases complete with
      | nil => exact (stretches_ne_nil _ (List.cons.inj whole).2).elim
      | cons stretch complete =>
          obtain ⟨rfl, others⟩ := List.cons.inj whole
          rw [ih rfl others]
          simp

/-- What a reader remembers between portions: it holds a stretch that no blank line has ended, and
has looked at all of it but the last byte. -/
structure Waits (reader : FrameReader) : Prop where
  single : stretches reader.held = [reader.held]
  scanned : reader.scanned = reader.held.length - 1

theorem waits_new : Waits new := ⟨rfl, rfl⟩

/-- The bytes that count: carriage returns do not. -/
def counted (bytes : List UInt8) : List UInt8 := bytes.filter (· ≠ 13)

@[simp] theorem counted_nil : counted [] = [] := rfl

@[simp] theorem counted_append (bytes more : List UInt8) :
    counted (bytes ++ more) = counted bytes ++ counted more :=
  List.filter_append bytes more

/-- A reader gives the frames of the stretches that are complete and keeps the last one. -/
theorem push_eq {reader : FrameReader} (waits : reader.Waits) {bytes last : List UInt8}
    {complete : List (List UInt8)}
    (whole : stretches (reader.held ++ counted bytes) = complete ++ [last]) :
    reader.push bytes =
      (if capacity < last.length then none else some (complete.filterMap Frame.ofBytes?),
        ⟨last, last.length - 1⟩) := by
  have skips := blankLineFrom?_append waits.single (counted bytes) 0
  rw [Nat.zero_add, ← waits.scanned] at skips
  have split : cut [] reader.scanned (reader.held ++ bytes.filter (· ≠ 13)) =
      (complete.reverse ++ [], last) := cut_eq skips whole
  simp only [push, split, List.append_nil, List.reverse_reverse]
  split <;> rfl

theorem Waits.push {reader : FrameReader} (waits : reader.Waits) (bytes : List UInt8) :
    Waits (reader.push bytes).2 := by
  obtain ⟨complete, last, whole⟩ := exists_stretches (reader.held ++ counted bytes)
  rw [push_eq waits whole]
  exact ⟨stretches_last whole, rfl⟩

end ChatGateway.FrameReader
