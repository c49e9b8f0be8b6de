import Lexing.Token
import Lexing.Proofs.Text.Bytes
import Mathlib.Data.Finset.Card

/-!
# Tokens under changes of their tags

Later passes add tags to a token, take some away or take all away, in any order and again and again.
Two tokens with different histories must be the same as soon as the same tags are left, and must be
written in the same way, though a set of strings may list its members in any order.

All of this is said of finite sets without an order. What a token holds is one of them, each change
of the token is the change of that set, and whoever lists the set in some order and sorts the list
by the bytes of the tags gets what is written.

## Main definitions

* `TagSet.members`: the finite set that a set of tags stands for
* `TagSet.byBytes`: a list of tags, sorted by their bytes
* `Edit`, `Edit.apply`: a change of the tags, and what it makes of a finite set
* `Token.editAll`: changes of a token one after the other

## Main results

* `TagSet.members_injective`: there is one set of tags for each finite set
* `TagSet.byBytes_eq`: all lists of the members are sorted into the same list
* `Token.editAll_spec`: changes one after the other are changes of the finite set
* `Token.editAll_ofTags`: what is known of a token after any changes, and of two of them
-/

namespace Lexing

open Text

/-! ### Sets of tags as finite sets -/

namespace TagSet

theorem nodup_toList (tags : TagSet) : tags.toList.Nodup :=
  tags.ascending.imp fun less => ne_of_lt less

/-- The members of a set of tags. -/
def members (tags : TagSet) : Finset String := ⟨tags.toList, tags.nodup_toList⟩

@[simp] theorem mem_members {tags : TagSet} {tag : String} : tag ∈ tags.members ↔ tag ∈ tags :=
  Iff.rfl

theorem card_members (tags : TagSet) : tags.members.card = tags.size := rfl

@[simp] theorem members_empty : empty.members = ∅ := rfl

@[simp] theorem members_insert (tags : TagSet) (tag : String) :
    (tags.insert tag).members = Insert.insert tag tags.members := by
  ext other
  simp

@[simp] theorem members_erase (tags : TagSet) (tag : String) :
    (tags.erase tag).members = tags.members.erase tag := by
  ext other
  simp [and_comm]

@[simp] theorem members_ofList (tags : List String) : (ofList tags).members = tags.toFinset := by
  ext tag
  simp

/-- The order of a set of tags is no choice, so its members are all there is to it. -/
theorem members_injective : Function.Injective members := by
  rintro ⟨a, ascending⟩ ⟨b, rising⟩ same
  have listed : a.Perm b := Quotient.exact (congrArg Finset.val same)
  congr 1
  exact listed.eq_of_pairwise
    (fun _ _ _ _ less more => absurd less (lt_asymm more)) ascending rising

/-- A list of tags in the order of their bytes. -/
def byBytes (tags : List String) : List String :=
  tags.mergeSort fun a b => decide (bytes a.toList ≤ bytes b.toList)

theorem pairwise_byBytes (tags : List String) : (byBytes tags).Pairwise (· ≤ ·) := by
  have trans : ∀ a b c : String, decide (a ≤ b) = true → decide (b ≤ c) = true →
      decide (a ≤ c) = true := by
    simp only [decide_eq_true_eq]
    exact fun _ _ _ => le_trans
  have total : ∀ a b : String, (decide (a ≤ b) || decide (b ≤ a)) = true := by
    simpa using le_total
  have sorted := List.pairwise_mergeSort trans total tags
  simpa only [byBytes, bytes_toList_le_iff, decide_eq_true_eq] using sorted

/-- Whichever way the members of a set are listed, sorted by their bytes they are in order. -/
theorem byBytes_eq {tags : TagSet} {listed : List String} (once : listed.Nodup)
    (all : ∀ tag, tag ∈ listed ↔ tag ∈ tags) : byBytes listed = tags.toList := by
  have same : (byBytes listed).Perm tags.toList :=
    (List.mergeSort_perm ..).trans ((List.perm_ext_iff_of_nodup once tags.nodup_toList).2 all)
  exact same.eq_of_pairwise (fun _ _ _ _ less more => le_antisymm less more)
    (pairwise_byBytes listed) (tags.ascending.imp le_of_lt)

end TagSet

/-! ### Changes -/

/-- A change of the tags of a token. -/
inductive Edit where
  | add (tag : String)
  | delete (tag : String)
  | clear

/-- What a change makes of a finite set. -/
def Edit.apply (members : Finset String) : Edit → Finset String
  | .add tag => insert tag members
  | .delete tag => members.erase tag
  | .clear => ∅

namespace Token

/-- Changes the tags of a token. -/
def edit (token : Token) : Edit → Token
  | .add tag => token.add tag
  | .delete tag => token.delete tag
  | .clear => token.clear

/-- Changes the tags of a token again and again. -/
def editAll (token : Token) (edits : List Edit) : Token := edits.foldl edit token

/-- A change of a token is the change of the finite set that it holds. -/
theorem members_edit (token : Token) (edit : Edit) :
    (token.edit edit).tags.members = edit.apply token.tags.members := by
  cases edit with
  | add tag => exact TagSet.members_insert ..
  | delete tag => exact TagSet.members_erase ..
  | clear => exact TagSet.members_empty

theorem origin_edit (token : Token) (edit : Edit) : (token.edit edit).origin = token.origin := by
  cases edit <;> rfl

theorem content_edit (token : Token) (edit : Edit) : (token.edit edit).content = token.content := by
  cases edit <;> rfl

/-- Changes one after the other are changes of the finite set, and of nothing else. -/
theorem editAll_spec (token : Token) (edits : List Edit) :
    (token.editAll edits).tags.members = edits.foldl Edit.apply token.tags.members ∧
      (token.editAll edits).origin = token.origin ∧
      (token.editAll edits).content = token.content := by
  induction edits generalizing token with
  | nil => exact ⟨rfl, rfl, rfl⟩
  | cons edit edits ih =>
    obtain ⟨members, origin, content⟩ := ih (token.edit edit)
    rw [members_edit] at members
    exact ⟨members, origin.trans (origin_edit ..), content.trans (content_edit ..)⟩

/-- The written form of a token lists the members of its set by their bytes. -/
theorem display_eq {token : Token} {listed : List String} (once : listed.Nodup)
    (all : ∀ tag, tag ∈ listed ↔ tag ∈ token.tags) :
    token.display = token.origin.display ++ " " ++ quote token.content.text ++ " " ++
      ("[" ++ ", ".intercalate (TagSet.byBytes listed) ++ "]") := by
  rw [TagSet.byBytes_eq once all]
  rfl

/-- Tokens are equal when they start in the same place, show the same text and hold the same finite
set. -/
theorem beq_iff_members {a b : Token} : (a == b) = true ↔
    a.origin = b.origin ∧ a.content.text = b.content.text ∧ a.tags.members = b.tags.members := by
  rw [beq_iff, TagSet.members_injective.eq_iff]

/-- Equal tokens are written in the same way. -/
theorem display_congr {a b : Token} (same : (a == b) = true) : a.display = b.display := by
  obtain ⟨origin, text, tags⟩ := beq_iff.1 same
  rw [display, display, origin, text, tags]

/-- A token that is made from a list of tags, which may repeat some, and then changed again and
again, holds the finite set that the same changes make of the tags in the list: it has the members
and no other tag, counts them, and lists each of them once; where it starts and what it shows stay
as they were. A success that asks for these tags makes the same token. Whatever order the members
are listed in, the token is written with the list sorted by bytes. Two tokens with any two such
histories are equal exactly if they start in the same place, show the same text and hold the same
finite set, and then they are written in the same way. -/
theorem editAll_ofTags (origin : Origin) (content : Window) (tags : List String)
    (edits : List Edit) :
    let token := (ofTags origin content tags).editAll edits
    let members := edits.foldl Edit.apply tags.toFinset
    (∀ success : Success, success.tags = some tags →
      ofSuccess? origin content success = some (ofTags origin content tags)) ∧
    (∀ tag, token.has tag = true ↔ tag ∈ members) ∧
    token.tags.size = members.card ∧
    token.tags.toList.Nodup ∧ (∀ tag, tag ∈ token.tags.toList ↔ tag ∈ members) ∧
    token.origin = origin ∧ token.content = content ∧
    (∀ listed : List String, listed.Nodup → (∀ tag, tag ∈ listed ↔ tag ∈ members) →
      token.display = origin.display ++ " " ++ quote content.text ++ " " ++
        ("[" ++ ", ".intercalate (TagSet.byBytes listed) ++ "]")) ∧
    ∀ (place : Origin) (window : Window) (others : List String) (changes : List Edit),
      let other := (ofTags place window others).editAll changes
      ((token == other) = true ↔ origin = place ∧ content.text = window.text ∧
        members = changes.foldl Edit.apply others.toFinset) ∧
      ((token == other) = true → token.display = other.display) := by
  intro token members
  have spec : ∀ place window others changes,
      let made := (ofTags place window others).editAll changes
      made.tags.members = changes.foldl Edit.apply others.toFinset ∧
        made.origin = place ∧ made.content = window := by
    intro place window others changes
    have changed := (ofTags place window others).editAll_spec changes
    rwa [ofTags, TagSet.members_ofList] at changed
  obtain ⟨held, starts, shows⟩ : token.tags.members = members ∧ token.origin = origin ∧
    token.content = content := spec origin content tags edits
  have inside : ∀ tag, tag ∈ token.tags ↔ tag ∈ members := fun tag => by
    rw [← held, TagSet.mem_members]
  refine ⟨?_, ?_, ?_, token.tags.nodup_toList, inside, starts, shows, ?_, ?_⟩
  · intro success asked
    rw [ofSuccess?, asked, Option.map_some]
  · exact fun tag => TagSet.contains_iff.trans (inside tag)
  · rw [← held, TagSet.card_members]
  · intro listed once all
    rw [display_eq once fun tag => (all tag).trans (inside tag).symm, starts, shows]
  · intro place window others changes other
    obtain ⟨holds, begins, displays⟩ := spec place window others changes
    refine ⟨?_, display_congr⟩
    rw [beq_iff_members, held, starts, shows, holds, begins, displays]

/-- Two histories of the tags of one text, shown in two larger ones: one has repeated tags, takes
some away and starts anew, the other asks for the same two at once. -/
theorem editAll_ofTags_of_two_histories :
    let origin := Origin.startOf "file"
    let content : Window := ⟨['x'], ['i', 'f'], []⟩
    let edits : List Edit := [.add "z", .delete "word", .clear, .add "é", .add "z", .add "é"]
    let first := (ofTags origin content ["word", "é", "word"]).editAll edits
    let second := (ofTags origin ⟨[], ['i', 'f'], ['!']⟩ ["z", "é"]).editAll []
    ofSuccess? origin content (.tagged 2 ["word", "é", "word"]) =
      some (ofTags origin content ["word", "é", "word"]) ∧
    first.tags.size = 2 ∧ first.has "word" = false ∧
    first.display = "file:1:1 \"if\" [z, é]" ∧
    (first == second) = true ∧ first.display = second.display := by
  intro origin content edits first second
  obtain ⟨asked, has, size, -, -, -, -, written, equal⟩ :=
    editAll_ofTags origin content ["word", "é", "word"] edits
  obtain ⟨same, shown⟩ := equal origin ⟨[], ['i', 'f'], ['!']⟩ ["z", "é"] []
  have left : edits.foldl Edit.apply ["word", "é", "word"].toFinset = {"é", "z"} := by
    decide +kernel
  have alike : (first == second) = true := same.2 ⟨rfl, rfl, by decide +kernel⟩
  have sorted : TagSet.byBytes ["é", "z"] = ["z", "é"] :=
    @TagSet.byBytes_eq ⟨["z", "é"], by decide⟩ _ (by decide) (by simp [TagSet.mem_iff, or_comm])
  refine ⟨asked (.tagged 2 _) rfl, size.trans (by decide +kernel), ?_, ?_, alike, shown alike⟩
  · rw [Bool.eq_false_iff, Ne, has]
    decide +kernel
  · have listed := written ["é", "z"] (by decide) fun tag => by rw [left]; simp
    rw [sorted] at listed
    exact listed.trans (by decide +kernel)

end Token

end Lexing
