import Lexing.Proofs.Text.Boundary
import Lexing.Proofs.Text.Bytes
import Lexing.Proofs.Text.Runs
import Mathlib.Computability.StateTransition

/-!
# Scanning bytes for line breaks

Line breaks are defined on the characters of a text, one after the other. Whoever looks for them in
bytes does it in a loop: find the next byte that breaks a line, look whether the byte behind it is
its partner, and go on one or two bytes further. The loop knows nothing of characters, and what it
counts in a row of breaking bytes depends on where it gets into the row.

All the same it ends, and at a place that can be told without a loop. What is counted so far, and
the breaks of what is left, are always the breaks of the whole; and what has been passed ends with a
breaking byte. So the count is that of the text, run by run, and the loop stops right behind the
last breaking byte. No other character has such a byte in its encoding, so that is a cut between two
characters.

## Main definitions

* `Byte.isBreak`, `Byte.alternate`: the bytes that break a line, and two of them that differ
* `Byte.breaks`: the breaks of a sequence of bytes
* `Byte.AtLastLine`: a cut right behind the last breaking byte
* `Scan`, `Scan.step`: the state of the loop, and one turn of it
* `Scan.Stands`: what each turn preserves

## Main results

* `Byte.breaks_eq_sum`, `Byte.breaks_bytes`: the breaks of bytes, run by run, are those of the text
* `Scan.Stands.step`: one turn passes a break, or there is none left
* `Scan.stands_of_reaches`, `Scan.Stands.exists_stop`: all turns, and that there is a last one
* `Scan.exists_stop_bytes`: where the loop ends on the bytes of a text
-/

namespace Lexing

/-! ### Breaking bytes -/

namespace Byte

/-- The bytes of a line feed and of a carriage return break a line. -/
def isBreak (byte : UInt8) : Bool := byte == 0x0A || byte == 0x0D

/-- Two breaking bytes that differ. -/
def alternate (b d : UInt8) : Bool := isBreak b && isBreak d && b != d

/-- Each byte as the character of its number. -/
def chars (bytes : List UInt8) : Text := bytes.map Char.ofUInt8

/-- The breaks of a sequence of bytes. -/
def breaks (bytes : List UInt8) : Nat := Text.breaks (chars bytes)

theorem ofUInt8_inj {b d : UInt8} : Char.ofUInt8 b = Char.ofUInt8 d ↔ b = d := by
  rw [Char.ext_iff, ← UInt32.toNat_inj, ← UInt8.toNat_inj]
  rfl

theorem isBreak_ofUInt8 (b : UInt8) : Text.isBreak (Char.ofUInt8 b) = isBreak b := by
  have feed : '\n' = Char.ofUInt8 0x0A := rfl
  have carriageReturn : '\r' = Char.ofUInt8 0x0D := rfl
  rw [Text.isBreak, isBreak, feed, carriageReturn, Bool.eq_iff_iff]
  simp only [Bool.or_eq_true, beq_iff_eq, ofUInt8_inj]

theorem alternate_iff {b d : UInt8} :
    alternate b d = true ↔ b = 0x0A ∧ d = 0x0D ∨ b = 0x0D ∧ d = 0x0A := by
  simp only [alternate, isBreak, Bool.and_eq_true, Bool.or_eq_true, beq_iff_eq, bne_iff_ne]
  constructor
  · rintro ⟨⟨rfl | rfl, rfl | rfl⟩, differ⟩ <;> simp at differ ⊢
  · rintro (⟨rfl, rfl⟩ | ⟨rfl, rfl⟩) <;> decide

/-- The partner of a breaking byte is the one that it alternates with. -/
theorem eq_partner_iff {b d : UInt8} (breaking : isBreak b = true) :
    d = (if b = 0x0A then 0x0D else 0x0A) ↔ alternate b d = true := by
  rw [isBreak, Bool.or_eq_true, beq_iff_eq, beq_iff_eq] at breaking
  rw [alternate_iff]
  rcases breaking with rfl | rfl <;> simp

theorem isPair_ofUInt8 (b d : UInt8) :
    Text.isPair (Char.ofUInt8 b) (Char.ofUInt8 d) = alternate b d := by
  have feed : '\n' = Char.ofUInt8 0x0A := rfl
  have carriageReturn : '\r' = Char.ofUInt8 0x0D := rfl
  rw [Bool.eq_iff_iff, alternate_iff, Text.isPair, feed, carriageReturn]
  simp only [Bool.or_eq_true, Bool.and_eq_true, beq_iff_eq, ofUInt8_inj]

theorem hasBreak_chars (bytes : List UInt8) : Text.hasBreak (chars bytes) = bytes.any isBreak := by
  rw [Text.hasBreak, chars, List.any_map]
  congr 1
  exact funext isBreak_ofUInt8

theorem chars_append (a b : List UInt8) : chars (a ++ b) = chars a ++ chars b := List.map_append

/-! ### The breaks of bytes, byte by byte -/

variable {b d : UInt8} {rest : List UInt8}

theorem breaks_of_unbroken (unbroken : rest.any isBreak = false) : breaks rest = 0 :=
  Text.breaks_eq_zero_of_not_hasBreak ((hasBreak_chars rest).trans unbroken)

/-- Bytes that break no line can be skipped. -/
theorem breaks_append_of_unbroken {skipped : List UInt8} (unbroken : skipped.any isBreak = false)
    (rest : List UInt8) : breaks (skipped ++ rest) = breaks rest := by
  have clean : ∀ c ∈ chars skipped, Text.isBreak c = false := fun c inside => by
    have none := (hasBreak_chars skipped).trans unbroken
    simpa using List.any_eq_false.1 none c inside
  have sum := Text.breaks_append_of_not_splits (Text.not_splits_of_forall clean (chars rest))
  rw [← chars_append] at sum
  rw [breaks, sum, ← breaks, breaks_of_unbroken unbroken, Nat.zero_add, breaks]

theorem breaks_of_alternate (pair : alternate b d = true) :
    breaks (b :: d :: rest) = breaks rest + 1 :=
  Text.breaks_of_isPair ((isPair_ofUInt8 b d).trans pair) (chars rest)

theorem breaks_of_single (breaking : isBreak b = true)
    (single : ∀ d ∈ rest.head?, alternate b d = false) : breaks (b :: rest) = breaks rest + 1 := by
  refine Text.breaks_of_single ((isBreak_ofUInt8 b).trans breaking) ?_
  change ∀ c ∈ (rest.map Char.ofUInt8).head?, _
  rw [List.head?_map]
  intro c first
  obtain ⟨d, front, rfl⟩ := Option.map_eq_some_iff.1 first
  rw [isPair_ofUInt8, single d front]

/-! ### Alternating runs -/

/-- Bytes are divided into runs where their characters are. -/
theorem splitBy_chars (bytes : List UInt8) :
    (chars bytes).splitBy Text.isPair = (bytes.splitBy alternate).map chars := by
  rw [List.splitBy_eq_iff]
  refine ⟨?_, ?_, ?_, ?_⟩
  · conv_lhs => rw [← List.flatten_splitBy alternate bytes]
    exact List.map_flatten
  · simp [chars]
  · intro run inside
    obtain ⟨run, within, rfl⟩ := List.mem_map.1 inside
    simpa [chars, List.isChain_map, isPair_ofUInt8] using List.isChain_of_mem_splitBy within
  · rw [List.isChain_map]
    refine (List.isChain_getLast_head_splitBy alternate bytes).imp ?_
    rintro a b ⟨some, more, single⟩
    exact ⟨by simpa [chars] using some, by simpa [chars] using more, by
      simpa [chars, isPair_ofUInt8] using single⟩

/-- The breaks of bytes are those of their alternating runs. -/
theorem breaks_eq_sum (bytes : List UInt8) :
    let runs := (bytes.splitBy alternate).filter (·.any isBreak)
    breaks bytes = (runs.map fun run => (run.length + 1) / 2).sum := by
  intro division
  have runs := Text.breaks_eq_sum (chars bytes)
  rw [splitBy_chars, List.filter_map, List.map_map] at runs
  rw [breaks, runs]
  congr 2
  · exact funext fun run => by simp [chars]
  · congr 1
    exact funext hasBreak_chars

/-! ### The bytes of a text -/

/-- A breaking character has one byte. -/
theorem chars_encode_of_isBreak {c : Char} (breaking : Text.isBreak c = true) :
    chars (String.utf8EncodeChar c) = [c] := by
  simp only [Text.isBreak, Bool.or_eq_true, beq_iff_eq] at breaking
  rcases breaking with rfl | rfl <;> rfl

theorem isBreak_ofNat {n : Nat} (small : n < 256) (plain : n ≠ 10 ∧ n ≠ 13) :
    isBreak (UInt8.ofNat n) = false := by
  simp only [isBreak, Bool.or_eq_false_iff, beq_eq_false_iff_ne, Ne, ← UInt8.toNat_inj,
    UInt8.toNat_ofNat', Nat.mod_eq_of_lt small]
  exact plain

/-- No other character has a breaking byte. -/
theorem unbroken_encode {c : Char} (plain : Text.isBreak c = false) :
    (String.utf8EncodeChar c).any isBreak = false := by
  simp only [Text.isBreak, Bool.or_eq_false_iff, beq_eq_false_iff_ne, Ne, Char.ext_iff,
    ← UInt32.toNat_inj] at plain
  obtain ⟨feed, carriageReturn⟩ : c.val.toNat ≠ 10 ∧ c.val.toNat ≠ 13 := plain
  unfold String.utf8EncodeChar
  dsimp only
  -- A single byte is the code point; the bytes of all others are greater than both.
  split_ifs
  all_goals simp only [List.any_cons, List.any_nil, Bool.or_false, Bool.or_eq_false_iff]
  · exact isBreak_ofNat (by omega) ⟨feed, carriageReturn⟩
  all_goals
    repeat refine ⟨isBreak_ofNat (by omega) (by omega), ?_⟩
    exact isBreak_ofNat (by omega) (by omega)

/-- Only a character that breaks a line starts with a breaking byte. -/
theorem mem_head?_of_chars {text : Text} {d : Char} (breaking : Text.isBreak d = true)
    (first : d ∈ (chars (Text.bytes text)).head?) : d ∈ text.head? := by
  cases text with
  | nil => exact first
  | cons e text =>
    rw [Text.bytes_cons, chars_append] at first
    cases next : Text.isBreak e with
    | true =>
      rw [chars_encode_of_isBreak next] at first
      exact first
    | false =>
      have unbroken := (hasBreak_chars _).trans (unbroken_encode next)
      obtain ⟨b, more, some⟩ := List.exists_cons_of_ne_nil (@String.utf8EncodeChar_ne_nil e)
      rw [some] at first unbroken
      obtain rfl : Char.ofUInt8 b = d := Option.some.inj first
      rw [chars, List.map_cons, Text.hasBreak_cons, breaking] at unbroken
      contradiction

/-- The breaks of the bytes of a text are those of the text. -/
theorem breaks_bytes (text : Text) : breaks (Text.bytes text) = Text.breaks text := by
  induction text using Text.breaks_induction with
  | nil => rfl
  | plain c text plain ih =>
    rw [Text.bytes_cons, breaks_append_of_unbroken (unbroken_encode plain), ih,
      Text.breaks_cons_of_not_isBreak plain]
  | pair c d text joined ih =>
    obtain ⟨first, second⟩ := Text.isBreak_of_isPair joined
    rw [Text.bytes_cons, Text.bytes_cons, breaks, chars_append, chars_append,
      chars_encode_of_isBreak first, chars_encode_of_isBreak second, List.singleton_append,
      List.singleton_append, Text.breaks_of_isPair joined, ← breaks, ih,
      Text.breaks_of_isPair joined]
  | single c text breaking alone ih =>
    have apart : ∀ d ∈ (chars (Text.bytes text)).head?, Text.isPair c d = false := by
      intro d first
      rw [Bool.eq_false_iff]
      intro joined
      have next := mem_head?_of_chars (Text.isBreak_of_isPair joined).2 first
      rw [alone d next] at joined
      contradiction
    rw [Text.bytes_cons, breaks, chars_append, chars_encode_of_isBreak breaking,
      List.singleton_append, Text.breaks_of_single breaking apart, ← breaks, ih,
      Text.breaks_of_single breaking alone]

/-! ### The cut behind the last break -/

/-- The cut between two sequences of bytes lies right behind the last breaking byte, or in front of
all bytes if none of them breaks a line. -/
structure AtLastLine (passed rest : List UInt8) : Prop where
  behind : ∀ b ∈ passed.getLast?, isBreak b = true
  unbroken : rest.any isBreak = false

namespace AtLastLine

variable {passed rest front last : List UInt8}

/-- A cut that is no earlier than the one behind the last break is the same. -/
theorem eq_of_append (here : AtLastLine passed (front ++ last))
    (there : AtLastLine (passed ++ front) last) : front = [] := by
  rcases List.eq_nil_or_concat front with rfl | ⟨more, b, rfl⟩
  · rfl
  · -- The last byte in front of the later cut breaks a line, and lies behind the earlier one.
    have breaking : isBreak b = true := there.behind b (by simp)
    have clean := here.unbroken
    simp [breaking] at clean

/-- There is only one cut behind the last break. -/
theorem unique (here : AtLastLine passed rest) (there : AtLastLine front last)
    (same : passed ++ rest = front ++ last) : passed = front := by
  rcases List.append_eq_append_iff.1 same with ⟨more, rfl, rfl⟩ | ⟨more, rfl, rfl⟩
  · rw [here.eq_of_append there, List.append_nil]
  · rw [there.eq_of_append here, List.append_nil]

end AtLastLine

/-- The last line of a text starts behind the last breaking byte. -/
theorem exists_atLastLine (text : Text) : ∃ front, text = front ++ Text.lastLine text ∧
    AtLastLine (Text.bytes front) (Text.bytes (Text.lastLine text)) := by
  obtain ⟨front, whole, ends⟩ := Text.exists_append_lastLine text
  refine ⟨front, whole, ?_, ?_⟩
  · rcases List.eq_nil_or_concat front with rfl | ⟨more, c, rfl⟩
    · simp
    · have breaking : Text.isBreak c = true := ends c (by simp)
      simp only [Text.isBreak, Bool.or_eq_true, beq_iff_eq] at breaking
      rw [List.concat_eq_append, Text.bytes_append]
      -- The character has one byte, so that is the last one.
      rcases breaking with rfl | rfl
      · simp [Text.bytes, String.utf8EncodeChar, isBreak]
      · simp [Text.bytes, String.utf8EncodeChar, isBreak]
  · have plain := Text.hasBreak_lastLine text
    rw [Text.bytes, List.any_flatMap, List.any_eq_false]
    intro c inside
    rw [unbroken_encode (by simpa using List.any_eq_false.1 plain c inside)]
    exact Bool.false_ne_true

end Byte

/-! ### The loop -/

/-- The state of the loop. -/
structure Scan where
  /-- The breaks that have been found. -/
  breaks : Nat
  /-- The place behind the last of them. -/
  next : Nat

namespace Scan

open StateTransition (Reaches eval mem_eval reaches_eval)

/-- One turn of the loop: the next breaking byte is found, and passed together with its partner if
that comes right behind it. Without another breaking byte there is no turn. -/
def step (bytes : List UInt8) (scan : Scan) : Option Scan :=
  match (bytes.drop scan.next).findIdx? Byte.isBreak with
  | none => none
  | some found =>
    let place := scan.next + found
    let partner : UInt8 := if bytes[place]? = some 0x0A then 0x0D else 0x0A
    some {
      breaks := scan.breaks + 1
      next := if bytes[place + 1]? = some partner then place + 2 else place + 1 }

/-- What each turn preserves: the breaks that have been found and those of what is left are the
breaks of the whole, and what has been passed is empty or ends with a breaking byte. -/
structure Stands (bytes passed rest : List UInt8) (scan : Scan) : Prop where
  whole : bytes = passed ++ rest
  next : scan.next = passed.length
  breaks : scan.breaks + Byte.breaks rest = Byte.breaks bytes
  few : scan.breaks ≤ passed.length
  behind : ∀ b ∈ passed.getLast?, Byte.isBreak b = true

variable {bytes passed rest : List UInt8} {scan stop : Scan}

theorem stands_start (bytes : List UInt8) : Stands bytes [] bytes ⟨0, 0⟩ where
  whole := rfl
  next := rfl
  breaks := Nat.zero_add _
  few := Nat.le_refl 0
  behind := by simp

/-- Without another breaking byte there is no turn. -/
theorem step_of_unbroken (unbroken : rest.any Byte.isBreak = false) (found : Nat) :
    step (passed ++ rest) ⟨found, passed.length⟩ = none := by
  have none : rest.findIdx? Byte.isBreak = none :=
    List.findIdx?_eq_none_iff.2 fun b inside => by simpa using List.any_eq_false.1 unbroken b inside
  simp only [step, List.drop_left, none]

/-- One turn finds the first breaking byte, and passes its partner with it if that comes next. -/
theorem step_of_break {skipped more : List UInt8} {b : UInt8}
    (unbroken : skipped.any Byte.isBreak = false) (breaking : Byte.isBreak b = true) (found : Nat) :
    step (passed ++ (skipped ++ b :: more)) ⟨found, passed.length⟩ = some ⟨found + 1,
      (passed ++ (skipped ++ [b])).length +
        if ∃ d ∈ more.head?, Byte.alternate b d = true then 1 else 0⟩ := by
  have none : skipped.findIdx? Byte.isBreak = none :=
    List.findIdx?_eq_none_iff.2 fun c inside => by
      simpa using List.any_eq_false.1 unbroken c inside
  have first : (skipped ++ b :: more).findIdx? Byte.isBreak = some skipped.length := by
    rw [List.findIdx?_append, none, List.findIdx?_cons, if_pos breaking]
    simp
  have here : (passed ++ (skipped ++ b :: more))[passed.length + skipped.length]? = some b := by
    rw [← List.append_assoc, ← List.length_append, List.getElem?_append_right (Nat.le_refl _)]
    simp
  have behind : (passed ++ (skipped ++ b :: more))[passed.length + skipped.length + 1]? =
      more.head? := by
    rw [← List.append_assoc, ← List.length_append, List.getElem?_append_right (Nat.le_succ _)]
    simp [List.head?_eq_getElem?]
  have partner : more.head? = some (if b = 0x0A then 0x0D else 0x0A) ↔
      ∃ d ∈ more.head?, Byte.alternate b d = true := by
    simp only [Option.mem_def, ← Byte.eq_partner_iff breaking, exists_eq_right]
  simp only [step, List.drop_left, first, here, behind, partner, Option.some.injEq,
    List.length_append, List.length_singleton]
  congr 1
  split <;> omega

/-- Where a byte breaks a line, there is a first one. -/
theorem exists_first_break (breaking : rest.any Byte.isBreak = true) :
    ∃ skipped b more, rest = skipped ++ b :: more ∧ skipped.any Byte.isBreak = false ∧
      Byte.isBreak b = true := by
  obtain ⟨b, first⟩ := Option.isSome_iff_exists.1
    (List.find?_isSome.2 (List.any_eq_true.1 breaking))
  obtain ⟨breaks, skipped, more, whole, clean⟩ := List.find?_eq_some_iff_append.1 first
  exact ⟨skipped, b, more, whole, List.any_eq_false.2 fun c inside => by simpa using clean c inside,
    breaks⟩

/-- Bytes that end with the one break that they have keep what all turns preserve. -/
theorem Stands.pass {front behind : List UInt8} {b : UInt8} {found : Nat}
    (stands : Stands bytes passed (front ++ behind) ⟨found, passed.length⟩)
    (ends : front.getLast? = some b) (breaking : Byte.isBreak b = true)
    (one : Byte.breaks (front ++ behind) = Byte.breaks behind + 1) :
    Stands bytes (passed ++ front) behind ⟨found + 1, (passed ++ front).length⟩ where
  whole := by rw [stands.whole, List.append_assoc]
  next := rfl
  breaks := by
    have sum : found + Byte.breaks (front ++ behind) = Byte.breaks bytes := stands.breaks
    change found + 1 + Byte.breaks behind = _
    omega
  few := by
    have few : found ≤ passed.length := stands.few
    have some : 0 < front.length := List.length_pos_of_mem (List.mem_of_getLast? ends)
    rw [List.length_append]
    exact Nat.add_le_add few some
  behind := by
    intro c last
    rw [List.getLast?_append, ends, Option.some_or, Option.mem_some_iff] at last
    rwa [← last]

/-- One turn passes some bytes and preserves what all turns preserve, or there is no turn because no
breaking byte is left. -/
theorem Stands.step (stands : Stands bytes passed rest scan) :
    (Scan.step bytes scan = none ∧ rest.any Byte.isBreak = false) ∨
    ∃ next front behind, Scan.step bytes scan = some next ∧ rest = front ++ behind ∧ front ≠ [] ∧
      Stands bytes (passed ++ front) behind next := by
  obtain ⟨found, place⟩ := scan
  obtain rfl : place = passed.length := stands.next
  obtain rfl := stands.whole
  cases left : rest.any Byte.isBreak with
  | false => exact .inl ⟨step_of_unbroken left found, rfl⟩
  | true =>
    obtain ⟨skipped, b, more, rfl, clean, breaking⟩ := exists_first_break left
    have turned := @step_of_break passed skipped more b clean breaking found
    have skip := Byte.breaks_append_of_unbroken clean (b :: more)
    by_cases pair : ∃ d ∈ more.head?, Byte.alternate b d = true
    · rw [if_pos pair] at turned
      obtain ⟨d, next, alternate⟩ := pair
      obtain ⟨behind, rfl⟩ := List.head?_eq_some_iff.1 next
      have split : skipped ++ b :: d :: behind = skipped ++ [b, d] ++ behind := by simp
      rw [Byte.breaks_of_alternate alternate, split] at skip
      rw [split] at stands turned ⊢
      have stop : (passed ++ (skipped ++ [b])).length + 1 =
          (passed ++ (skipped ++ [b, d])).length := by
        simp only [List.length_append, List.length_cons, List.length_nil]
        omega
      have second : Byte.isBreak d = true := by
        rcases Byte.alternate_iff.1 alternate with ⟨-, rfl⟩ | ⟨-, rfl⟩ <;> rfl
      rw [stop] at turned
      exact .inr ⟨_, skipped ++ [b, d], behind, turned, rfl, by simp,
        stands.pass (by simp) second skip⟩
    · rw [if_neg pair] at turned
      have alone : ∀ d ∈ more.head?, Byte.alternate b d = false := fun d next => by
        rw [Bool.eq_false_iff]
        exact fun alternate => pair ⟨d, next, alternate⟩
      have split : skipped ++ b :: more = skipped ++ [b] ++ more := by simp
      rw [Byte.breaks_of_single breaking alone, split] at skip
      rw [split] at stands turned ⊢
      exact .inr ⟨_, skipped ++ [b], more, turned, rfl, by simp,
        stands.pass List.getLast?_concat breaking skip⟩

/-- All turns preserve what each of them does. -/
theorem stands_of_reaches (reaches : Reaches (Scan.step bytes) ⟨0, 0⟩ scan) :
    ∃ passed rest, Stands bytes passed rest scan := by
  induction reaches with
  | refl => exact ⟨[], bytes, stands_start bytes⟩
  | tail _ turned ih =>
    obtain ⟨passed, rest, stands⟩ := ih
    rcases stands.step with ⟨none, -⟩ | ⟨next, front, behind, turn, -, -, later⟩
    · rw [none] at turned
      contradiction
    · obtain rfl := Option.some.inj (turn.symm.trans turned)
      exact ⟨_, _, later⟩

/-- There is a last turn, since each one leaves fewer bytes. It finds all breaks, and it stops
behind the last of them. -/
theorem Stands.exists_stop (stands : Stands bytes passed rest scan) :
    ∃ stop passed rest, stop ∈ eval (Scan.step bytes) scan ∧ Stands bytes passed rest stop ∧
      Byte.AtLastLine passed rest := by
  induction fewer : rest.length using Nat.strongRecOn generalizing passed rest scan with
  | ind length ih =>
    subst fewer
    rcases stands.step with ⟨none, unbroken⟩ | ⟨next, front, behind, turn, rfl, some, later⟩
    · exact ⟨scan, passed, rest, mem_eval.2 ⟨.refl, none⟩, stands, stands.behind, unbroken⟩
    · have shorter : behind.length < (front ++ behind).length := by
        rw [List.length_append]
        exact Nat.lt_add_of_pos_left (List.length_pos_of_ne_nil some)
      obtain ⟨stop, passed, rest, ends, there, last⟩ := ih _ shorter later rfl
      rw [← reaches_eval (Relation.ReflTransGen.single turn)] at ends
      exact ⟨stop, passed, rest, ends, there, last⟩

/-- On the bytes of every text the loop ends, and no turn on the way leaves the bytes or finds more
breaks than it has passed bytes. It counts the breaks of the text, which are the halves, rounded up,
of the runs of breaking bytes that alternate. It stops at the start if no byte breaks a line, and
right behind the last byte that does otherwise. That is a cut between two characters of the text,
and the last line is what follows it. -/
theorem exists_stop_bytes (text : Text) :
    let bytes := Text.bytes text
    let runs := (bytes.splitBy Byte.alternate).filter (·.any Byte.isBreak)
    ∃ stop, stop ∈ eval (Scan.step bytes) ⟨0, 0⟩ ∧
      stop.breaks = (runs.map fun run => (run.length + 1) / 2).sum ∧
      stop.breaks = Text.breaks text ∧
      (bytes.any Byte.isBreak = false → stop.next = 0) ∧
      (∀ front last behind, bytes = front ++ last :: behind → Byte.isBreak last = true →
        behind.any Byte.isBreak = false → stop.next = front.length + 1) ∧
      Text.IsBoundary text stop.next ∧
      stop.next + Text.size (Text.lastLine text) = Text.size text ∧
      ∀ scan, Reaches (Scan.step bytes) ⟨0, 0⟩ scan →
        scan.next ≤ bytes.length ∧ scan.breaks ≤ scan.next := by
  intro bytes runs
  obtain ⟨stop, passed, rest, ends, there, last⟩ := (stands_start bytes).exists_stop
  have all : stop.breaks = Byte.breaks bytes := by
    have sum := there.breaks
    rwa [Byte.breaks_of_unbroken last.unbroken, Nat.add_zero] at sum
  -- Whatever cut lies behind the last break is the one where the loop stops.
  have place : ∀ {front behind}, bytes = front ++ behind → Byte.AtLastLine front behind →
      stop.next = front.length := by
    intro front behind whole here
    rw [there.next, last.unique here (there.whole.symm.trans whole)]
  obtain ⟨front, whole, line⟩ := Byte.exists_atLastLine text
  have size : stop.next = Text.size front := by
    rw [place (by rw [← Text.bytes_append, ← whole]) line, Text.length_bytes]
  refine ⟨stop, ends, ?_, ?_, ?_, ?_, ⟨front, _, whole, size.symm⟩, ?_, ?_⟩
  · rw [all, Byte.breaks_eq_sum]
  · rw [all, Byte.breaks_bytes]
  · exact fun unbroken => place (List.nil_append bytes).symm ⟨by simp, unbroken⟩
  · intro front b behind whole breaking unbroken
    have cut : bytes = front ++ [b] ++ behind := by rw [whole, List.append_assoc]; rfl
    rw [place cut ⟨by simpa using breaking, unbroken⟩, List.length_append]
    rfl
  · rw [size, ← Text.size_append, ← whole]
  · intro scan reaches
    obtain ⟨passed, rest, stands⟩ := stands_of_reaches reaches
    rw [stands.next, stands.whole, List.length_append]
    exact ⟨Nat.le_add_right .., stands.few⟩

/-- Two letters of two bytes around a run of three, a letter, and twice the same break. -/
theorem exists_stop_bytes_of_runs :
    let text : Text := ['é', '\r', '\n', '\r', 'x', '\n', '\n', 'é']
    ∃ stop, stop ∈ eval (Scan.step (Text.bytes text)) ⟨0, 0⟩ ∧
      stop.breaks = 4 ∧ stop.next = 8 ∧ Text.IsBoundary text 8 := by
  intro text
  obtain ⟨stop, ends, count, -, -, behind, boundary, -, -⟩ := exists_stop_bytes text
  have next : stop.next = 8 := behind [0xC3, 0xA9, 0x0D, 0x0A, 0x0D, 0x78, 0x0A] 0x0A [0xC3, 0xA9]
    (by decide +kernel) rfl rfl
  exact ⟨stop, ends, count.trans (by decide +kernel), next, next ▸ boundary⟩

end Scan

end Lexing
