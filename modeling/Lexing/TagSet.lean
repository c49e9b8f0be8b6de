/-!
# Sets of tags

A finite set of strings, kept in strictly ascending order. The order of strings is that of their
code points, which is also the order of their UTF-8 bytes. Two sets with the same members are the
same value, whatever the order the tags came in.

## Main definitions

* `TagSet`, `TagSet.empty`, `TagSet.insert`, `TagSet.erase`, `TagSet.ofList`
* `TagSet.contains`, `TagSet.size`, `TagSet.display`

## Main results

* `TagSet.mem_insert`, `TagSet.mem_erase`, `TagSet.mem_ofList`: what each operation does to the
  members
-/

namespace Lexing

/-- A set of strings in ascending order. -/
structure TagSet where
  toList : List String
  ascending : toList.Pairwise (· < ·) := by simp
  deriving DecidableEq

namespace TagSet

instance : Membership String TagSet := ⟨fun tags tag => tag ∈ tags.toList⟩

theorem mem_iff {tag : String} {tags : TagSet} : tag ∈ tags ↔ tag ∈ tags.toList := Iff.rfl

instance (tag : String) (tags : TagSet) : Decidable (tag ∈ tags) :=
  decidable_of_iff' _ mem_iff

/-- The set without members. -/
def empty : TagSet := { toList := [] }

/-- Puts a tag in its place in an ascending list, unless it is there already. -/
private def place (tag : String) : List String → List String
  | [] => [tag]
  | first :: rest =>
    if tag < first then tag :: first :: rest
    else if first < tag then first :: place tag rest
    else first :: rest

private theorem mem_place {tag other : String} {tags : List String} :
    other ∈ place tag tags ↔ other = tag ∨ other ∈ tags := by
  induction tags with
  | nil => simp [place]
  | cons first rest ih =>
    unfold place
    split
    · simp
    · split
      · simp only [List.mem_cons, ih]
        exact or_left_comm
      · next below above =>
        have same : first = tag := String.le_antisymm
          (String.not_lt.1 below) (String.not_lt.1 above)
        simp [same]

private theorem pairwise_place {tag : String} {tags : List String}
    (ascending : tags.Pairwise (· < ·)) : (place tag tags).Pairwise (· < ·) := by
  induction tags with
  | nil => simp [place]
  | cons first rest ih =>
    have ordered := List.pairwise_cons.1 ascending
    unfold place
    split
    · next below =>
      refine List.pairwise_cons.2 ⟨fun other inside => ?_, ascending⟩
      rcases List.mem_cons.1 inside with rfl | later
      · exact below
      · exact String.lt_trans below (ordered.1 other later)
    · split
      · next above =>
        refine List.pairwise_cons.2 ⟨fun other inside => ?_, ih ordered.2⟩
        rcases mem_place.1 inside with rfl | later
        · exact above
        · exact ordered.1 other later
      · exact ascending

/-- Adds a tag, unless it is a member already. -/
def insert (tags : TagSet) (tag : String) : TagSet where
  toList := place tag tags.toList
  ascending := pairwise_place tags.ascending

/-- Takes a tag out, if it is a member. -/
def erase (tags : TagSet) (tag : String) : TagSet where
  toList := tags.toList.filter (· != tag)
  ascending := tags.ascending.filter _

/-- The set of the tags in a list. -/
def ofList (tags : List String) : TagSet := tags.foldl insert empty

/-- Whether a tag is a member. -/
def contains (tags : TagSet) (tag : String) : Bool := decide (tag ∈ tags)

/-- The number of members. -/
def size (tags : TagSet) : Nat := tags.toList.length

/-- The written form of a set lists its members in order. -/
def display (tags : TagSet) : String := "[" ++ ", ".intercalate tags.toList ++ "]"

@[simp] theorem not_mem_empty (tag : String) : tag ∉ empty := by simp [mem_iff, empty]

@[simp] theorem mem_insert {tags : TagSet} {tag other : String} :
    other ∈ tags.insert tag ↔ other = tag ∨ other ∈ tags := mem_place

@[simp] theorem mem_erase {tags : TagSet} {tag other : String} :
    other ∈ tags.erase tag ↔ other ∈ tags ∧ other ≠ tag := by
  simp [mem_iff, erase]

@[simp] theorem mem_ofList {tags : List String} {tag : String} :
    tag ∈ ofList tags ↔ tag ∈ tags := by
  have general : ∀ start : TagSet, tag ∈ tags.foldl insert start ↔ tag ∈ start ∨ tag ∈ tags := by
    induction tags with
    | nil => simp
    | cons first rest ih =>
      intro start
      rw [List.foldl_cons, ih, mem_insert, List.mem_cons, or_assoc, or_left_comm]
  simpa [ofList] using general empty

@[simp] theorem contains_iff {tags : TagSet} {tag : String} :
    tags.contains tag = true ↔ tag ∈ tags :=
  decide_eq_true_iff

end TagSet

end Lexing
