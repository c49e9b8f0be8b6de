import Lexing.Proofs.Lexeme.Outcomes
import Mathlib.Data.List.Infix
import Mathlib.Data.List.TakeWhile

/-!
# Literals, element by element

A literal is read character by character, and whether a quote ends it depends on what stands before
the quote: of three backslashes in a row the last one takes it in, of two it does not. So a literal
is better described by its elements. An element is a backslash with the character after it, or any
other character alone; only one that stands alone can end the literal. Where the literal ends, how
far it reaches and what is wrong with it can then be told from the list of its elements.

## Main definitions

* `Literal.Element`, `Literal.elements`: the elements of a text
* `Literal.inside`, `Literal.outside`: the elements before the end of the literal, and the others
* `Literal.faults`: what is wrong with some elements, each at its place

## Main results

* `Literal.written_elements`: the elements of a text make it up
* `Literal.read_eq_elements`: what reading a literal comes to
* `Lexeme.literal_run_eq_elements`: what the recognizer of literals makes of every text
-/

namespace Lexing

open Text

namespace Literal

/-- What a literal is made of. -/
inductive Element where
  /-- A backslash, and the character after it, whatever that is. -/
  | escape (c : Char)
  | alone (c : Char)
  deriving DecidableEq, Repr

namespace Element

/-- How an element is written. -/
def text : Element → Text
  | escape c => ['\\', c]
  | alone c => [c]

/-- A quote or a breaking character ends the literal, if it stands alone. -/
def ends : Element → Bool
  | escape _ => false
  | alone c => c == '"' || isBreak c

/-- What is wrong with an element at an offset. Only four characters may be escaped. -/
def problem? (offset : Nat) : Element → Option Problem
  | escape c =>
    if c ∈ ['"', '\\', 'n', 't'] then none
    else some ⟨offset, 1 + c.utf8Size, "unknown escape `\\" ++ c.toString ++ "`"⟩
  | alone _ => none

end Element

/-- The elements of a text. A backslash at the very end stands alone. -/
def elements : Text → List Element
  | [] => []
  | '\\' :: c :: text => .escape c :: elements text
  | c :: text => .alone c :: elements text

/-- The text that some elements make up. -/
def written (parts : List Element) : Text := parts.flatMap Element.text

/-- What is wrong with some elements, where the first of them lies at an offset. Each is paired with
the elements before it, and lies behind what they make up. -/
def faults (offset : Nat) (parts : List Element) : List Problem :=
  (parts.inits.zip parts).filterMap fun (before, part) =>
    part.problem? (offset + size (written before))

/-- The elements up to the first one that ends the literal. -/
def inside (text : Text) : List Element := (elements text).takeWhile (!·.ends)

/-- The elements from the first one on that ends the literal. -/
def outside (text : Text) : List Element := (elements text).dropWhile (!·.ends)

/-! ### Reading, element by element -/

section Steps

variable (offset : Nat) (part : Element) (parts : List Element) {c : Char} (text : Text)

@[simp] theorem written_nil : written [] = [] := rfl

@[simp] theorem written_cons : written (part :: parts) = part.text ++ written parts := rfl

@[simp] theorem faults_nil : faults offset [] = [] := rfl

/-- The elements behind the first one lie further on by its size. -/
theorem faults_cons : faults offset (part :: parts) =
    (part.problem? offset).toList ++ faults (offset + size part.text) parts := by
  have pairs : (part :: parts).inits.zip (part :: parts) =
      ([], part) :: (parts.inits.zip parts).map (Prod.map (part :: ·) id) := by
    rw [List.inits_cons, List.zip_cons_cons, List.zip_map_left]
  have later : ((fun (before, next) => Element.problem? (offset + size (written before)) next) ∘
      Prod.map (part :: ·) id) = fun (before, next) =>
        Element.problem? (offset + size part.text + size (written before)) next := by
    funext ⟨before, next⟩
    simp [Nat.add_assoc]
  rw [faults, pairs, List.filterMap_cons, List.filterMap_map, later, faults]
  cases fault : part.problem? offset with
  | none => simp [fault]
  | some problem => simp [fault]

theorem elements_escape :
    elements ('\\' :: c :: text) = .escape c :: elements text := rfl

/-- A character other than a backslash is an element of its own. -/
theorem elements_alone (other : c ≠ '\\') :
    elements (c :: text) = .alone c :: elements text := by
  rw [elements]
  simp [other]

theorem inside_escape : inside ('\\' :: c :: text) = .escape c :: inside text := rfl

theorem outside_escape : outside ('\\' :: c :: text) = outside text := rfl

/-- An element that ends the literal is the first one outside it. -/
theorem inside_of_ends (other : c ≠ '\\') (ends : (Element.alone c).ends = true) :
    inside (c :: text) = [] ∧ outside (c :: text) = .alone c :: elements text := by
  rw [inside, outside, elements_alone text other]
  simp [ends]

theorem inside_of_not_ends (other : c ≠ '\\') (ends : (Element.alone c).ends = false) :
    inside (c :: text) = .alone c :: inside text ∧ outside (c :: text) = outside text := by
  rw [inside, outside, elements_alone text other]
  simp [ends, inside, outside]

end Steps

/-- The elements of a text make it up. -/
theorem written_elements (text : Text) : written (elements text) = text := by
  induction text using elements.induct with
  | case1 => rfl
  | case2 c text ih => rw [elements_escape, written_cons, ih]; rfl
  | case3 c text other ih =>
    rw [elements.eq_3 c text other, written_cons, ih]
    rfl

/-- Nothing is lost between the elements inside the literal and those outside it. -/
theorem written_inside_append (text : Text) :
    written (inside text) ++ written (outside text) = text := by
  rw [written, written, ← List.flatMap_append, inside, outside, List.takeWhile_append_dropWhile]
  exact written_elements text

/-- A literal ends at a quote or before a line break, if these stand alone. -/
theorem Element.ends_iff {part : Element} :
    part.ends = true ↔ part ∈ [.alone '"', .alone '\n', .alone '\r'] := by
  cases part with
  | escape c => simp [Element.ends]
  | alone c => simp [Element.ends, isBreak]

/-- No element inside a literal ends it, and the first one outside does. -/
theorem ends_first_outside (text : Text) :
    (∀ part ∈ inside text, part.ends = false) ∧
    ∀ part ∈ (outside text).head?, part.ends = true := by
  constructor
  · intro part within
    simpa using List.mem_takeWhile_imp within
  · intro part first
    have stopped := List.head?_dropWhile_not (!·.ends) (elements text)
    rw [← outside, Option.mem_def.1 first] at stopped
    simpa using stopped

theorem isKnownEscape_iff {c : Char} : isKnownEscape c = true ↔ c ∈ ['"', '\\', 'n', 't'] := by
  simp [isKnownEscape, or_assoc]

/-- An escape is reported where it is read exactly if it is at fault. -/
theorem toList_problem?_escape (offset : Nat) (c : Char) :
    ((Element.escape c).problem? offset).toList =
      if isKnownEscape c then [] else [unknownEscape offset c] := by
  rw [Element.problem?]
  by_cases known : isKnownEscape c = true
  · rw [if_pos known, if_pos (isKnownEscape_iff.1 known)]
    rfl
  · rw [if_neg known, if_neg (mt isKnownEscape_iff.2 known)]
    rfl

/-- Elements without a fault escape known characters only. -/
theorem faults_eq_nil_iff {offset : Nat} {parts : List Element} :
    faults offset parts = [] ↔ ∀ c, Element.escape c ∈ parts → c ∈ ['"', '\\', 'n', 't'] := by
  induction parts generalizing offset with
  | nil => simp
  | cons part parts ih =>
    rw [faults_cons, List.append_eq_nil_iff, ih]
    cases part with
    | alone c => simp [Element.problem?]
    | escape c =>
      have harmless :
          ((Element.escape c).problem? offset).toList = [] ↔ isKnownEscape c = true := by
        rw [toList_problem?_escape]
        cases isKnownEscape c <;> simp
      rw [harmless, isKnownEscape_iff]
      constructor
      · rintro ⟨known, others⟩ d within
        cases within with
        | head => exact known
        | tail _ later => exact others d later
      · intro all
        exact ⟨all c List.mem_cons_self, fun d later => all d (List.mem_cons_of_mem _ later)⟩

/-- Reading a literal from inside comes to the faults of its elements and to what they make up. It
takes in a quote that ends it, and nothing else that lies outside. -/
theorem read_eq_elements (offset : Nat) (text : Text) :
    read offset text =
      { unknown := faults offset (inside text)
        length := offset + size (written (inside text)) +
          if (outside text).head? = some (.alone '"') then 1 else 0
        closed := decide ((outside text).head? = some (.alone '"')) } := by
  induction text using reading_induction generalizing offset with
  | ended => rfl
  | slash => rfl
  | escape c text ih =>
    have slash : Char.utf8Size '\\' = 1 := rfl
    have length : size (Element.escape c).text = 1 + c.utf8Size := by simp [Element.text, slash]
    rw [read_escape, ih, inside_escape, outside_escape, faults_cons, toList_problem?_escape,
      written_cons, size_append, length]
    simp only [← Nat.add_assoc]
  | close text =>
    obtain ⟨empty, quote⟩ := inside_of_ends text (by decide : '"' ≠ '\\') (by decide)
    rw [read_close, empty, quote]
    simp
  | stop c text breaking =>
    have ends : (Element.alone c).ends = true := by simp [Element.ends, breaking]
    obtain ⟨empty, last⟩ := inside_of_ends text (ne_slash_of_isBreak breaking) ends
    rw [read_stop offset text breaking, empty, last]
    simp [ne_quote_of_isBreak breaking]
  | plain c text plain ih =>
    obtain ⟨backslash, quote, breaking⟩ := isPlain_iff.1 plain
    have ends : (Element.alone c).ends = false := by simp [Element.ends, quote, breaking]
    obtain ⟨more, last⟩ := inside_of_not_ends text backslash ends
    have length : size (Element.alone c).text = c.utf8Size := by simp [Element.text]
    rw [read_plain offset text plain, ih, more, last, faults_cons, written_cons, size_append,
      length, ← Nat.add_assoc]
    rfl

end Literal

namespace Lexeme

open Literal

section Quoted

variable {text : Text}

/-- A literal with nothing wrong succeeds over all that it takes in. -/
theorem literal_run_of_problems_eq_nil (sound : (read 1 text).problems = []) :
    literal.run ('"' :: text) =
      .success ((Success.tagged (read 1 text).length ["string"]).withTabs true) := by
  have faultless : (read 1 text).problems.isEmpty = true := by simp [sound]
  simp only [literal, faultless]
  rfl

/-- A literal that a quote ends claims that quote as well, and is at fault for its escapes only. -/
theorem literal_run_closed (closing : (outside text).head? = some (.alone '"')) :
    literal.run ('"' :: text) =
      let claim : Claim := ⟨size ('"' :: written (inside text) ++ ['"']), false, true⟩
      let unknown := faults 1 (inside text)
      if unknown = [] then .success ⟨claim, some ["string"]⟩ else .failure ⟨claim, unknown⟩ := by
  have reading := read_eq_elements 1 text
  simp only [closing, if_true, decide_true] at reading
  have problems : (read 1 text).problems = faults 1 (inside text) := by
    rw [Reading.problems, reading]
    exact List.append_nil _
  have length : size ('"' :: written (inside text) ++ ['"']) = (read 1 text).length := by
    rw [reading, size_append, size_cons]
    rfl
  rw [length]
  by_cases sane : faults 1 (inside text) = []
  · rw [if_pos sane, literal_run_of_problems_eq_nil (problems.trans sane)]
    rfl
  · have broken : (read 1 text).problems ≠ [] := problems ▸ sane
    rw [if_neg sane, literal_run_of_problems broken, size_quoted, problems]
    rfl

/-- A literal that no quote ends lacks one, whatever else is wrong with it. -/
theorem literal_run_open (missing : (outside text).head? ≠ some (.alone '"')) :
    literal.run ('"' :: text) = .failure
      ⟨⟨size ('"' :: written (inside text)), false, true⟩,
        faults 1 (inside text) ++ [unterminated]⟩ := by
  have reading := read_eq_elements 1 text
  simp only [missing, if_false, decide_false] at reading
  have problems : (read 1 text).problems = faults 1 (inside text) ++ [unterminated] := by
    rw [Reading.problems, reading]
    rfl
  have length : size ('"' :: written (inside text)) = (read 1 text).length := by
    rw [reading, size_cons]
    rfl
  have broken : (read 1 text).problems ≠ [] := by
    rw [problems]
    exact List.append_ne_nil_of_right_ne_nil _ (List.cons_ne_nil _ _)
  rw [literal_run_of_problems broken, size_quoted, problems, length]
  rfl

end Quoted

/-- What the recognizer of literals makes of a text. The elements inside the literal stand behind
its opening quote, up to the first one that ends it, and each unknown escape among them is a fault.
A quote that ends the literal is claimed, a breaking character is not, and without either the
literal reaches as far as the text. -/
theorem literal_run_eq_elements (text : Text) :
    let parts := inside text.tail
    let unknown := faults 1 parts
    let unterminated : Problem := ⟨0, 1, "unterminated string"⟩
    let enders : List Element := [.alone '"', .alone '\n', .alone '\r']
    text.tail = written parts ++ written (outside text.tail) ∧
    (∀ part ∈ parts, part ∉ enders) ∧ (∀ part ∈ (outside text.tail).head?, part ∈ enders) ∧
    (unknown = [] ↔ ∀ c, Element.escape c ∈ parts → c ∈ ['"', '\\', 'n', 't']) ∧
    literal.run text =
      if text.head? = some '"' then
        match outside text.tail with
        | .alone '"' :: _ =>
          let claim : Claim := ⟨size ('"' :: written parts ++ ['"']), false, true⟩
          if unknown = [] then .success ⟨claim, some ["string"]⟩ else .failure ⟨claim, unknown⟩
        | _ :: _ =>
          .failure ⟨⟨size ('"' :: written parts), false, true⟩, unknown ++ [unterminated]⟩
        | [] => .failure ⟨⟨size text, false, true⟩, unknown ++ [unterminated]⟩
      else .none := by
  intro parts unknown unterminated enders
  obtain ⟨none, first⟩ := ends_first_outside text.tail
  have going : ∀ part ∈ parts, part ∉ enders := fun part within ended =>
    absurd (Element.ends_iff.2 ended) (by simp [none part within])
  have ended : ∀ part ∈ (outside text.tail).head?, part ∈ enders := fun part leading =>
    Element.ends_iff.1 (first part leading)
  refine ⟨(written_inside_append text.tail).symm, going, ended, faults_eq_nil_iff, ?_⟩
  cases text with
  | nil => rfl
  | cons c text =>
    by_cases quote : c = '"'
    · cases quote
      rw [List.head?_cons, if_pos rfl, List.tail_cons]
      by_cases closing : (outside text).head? = some (.alone '"')
      · obtain ⟨later, last⟩ := List.head?_eq_some_iff.1 closing
        rw [literal_run_closed closing, last]
        rfl
      · rw [literal_run_open closing]
        split
        next later last => exact absurd (by rw [last]; rfl) closing
        next last => rfl
        next last =>
          -- Nothing is left outside, so all of the text lies inside.
          have whole := written_inside_append text
          rw [last, written_nil, List.append_nil] at whole
          rw [whole]
          rfl
    · rw [if_neg (by simpa using quote)]
      exact literal_run_eq_none (forall_head_ne quote text)

-- The last of three backslashes takes the quote in, and the next quote ends the literal.
example : inside ['\\', '\\', '\\', '"', 'é', '"'] = [.escape '\\', .escape '"', .alone 'é'] := by
  decide

end Lexeme

end Lexing
