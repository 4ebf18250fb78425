/-
# Decorations that are read back

A decoration is a list of references, each written by its full name. A name has no blanks in it,
and the only blanks in a written reference are those of the arrow behind a head and of the mark of a
tag. No comma stands before one of them, so the list falls apart exactly where it was joined, even
if a name ends with a comma. And the full names of two kinds never begin alike, whatever the names
themselves look like. So the labels are those of the branches, the remote branches and the tags, in
order.

## Main definitions

* `Decoration.Reference` — what points to a commit, with its full name and how it is written.
* `Decoration.Reference.label?` — the label that it should have.
* `Decoration.Reference.Sound` — the names that a reference may have.

## Main results

* `Decoration.Reference.apart_written`, `Decoration.Reference.trim_written` — a reference is one
  piece, and it is not trimmed.
* `Decoration.Reference.label?_written` — the label of a reference that was written.
* `Decoration.parse_written` — the labels of a list of references.
-/

import CommitHistory.Log.Decoration
import CommitHistory.Proofs.Text.Cutting

namespace CommitHistory.Decoration

open Text

/-- A text without blanks. -/
def Solid (text : List Char) : Prop := ∀ c ∈ text, isBlank c = false

instance : DecidablePred Solid := fun text => List.decidableBAll _ text

theorem Solid.append {start name : List Char} (solid : Solid start) (named : Solid name) :
    Solid (start ++ name) := List.forall_mem_append.mpr ⟨solid, named⟩

/-! ### The beginnings of a full name

Each beginning that is asked for differs from those before it in one of its own letters, so that the
name behind it has no say. -/

theorem label?_branch (name : List Char) :
    label? ("refs/heads/".toList ++ name) = some ⟨String.ofList name, .branch⟩ := rfl

theorem label?_current (name : List Char) :
    label? ("HEAD -> ".toList ++ ("refs/heads/".toList ++ name)) =
      some ⟨String.ofList name, .branch⟩ := rfl

theorem label?_tag (name : List Char) :
    label? ("tag: ".toList ++ ("refs/tags/".toList ++ name)) =
      some ⟨String.ofList name, .tag⟩ := rfl

theorem label?_remote (name : List Char) :
    label? ("refs/remotes/".toList ++ name) =
      if "/HEAD".toList.isSuffixOf name then none
      else some ⟨String.ofList name, .remoteBranch⟩ := rfl

/-- A name without blanks does not begin with a text that has one. -/
theorem dropPrefix?_of_solid {start name : List Char} (blank : ' ' ∈ start)
    (solid : Solid name) : dropPrefix? start name = none := by
  cases found : dropPrefix? start name with
  | none => rfl
  | some rest =>
    obtain rfl := dropPrefix?_eq_some found
    have member := solid ' ' (List.mem_append_left rest blank)
    exact absurd member (by decide)

/-- A name without blanks that is neither that of a branch nor that of a remote branch gives no
label. -/
theorem label?_other {name : List Char} (solid : Solid name)
    (branch : ¬ "refs/heads/".toList <+: name) (remote : ¬ "refs/remotes/".toList <+: name) :
    label? name = none := by
  have unmarked : dropPrefix? "HEAD -> ".toList name = none :=
    dropPrefix?_of_solid (by decide) solid
  have untagged : dropPrefix? "tag: ".toList name = none :=
    dropPrefix?_of_solid (by decide) solid
  unfold label?
  rw [unmarked]
  simp only [Option.getD_none, untagged, dropPrefix?_of_not_prefix branch,
    dropPrefix?_of_not_prefix remote]

/-! ### References -/

/-- What points to a commit. -/
inductive Reference where
  /-- A local branch, which may be the one that is checked out. -/
  | branch (name : String) (current : Bool)
  /-- A branch of a remote, whose name begins with that of the remote. -/
  | remoteBranch (name : String)
  | tag (name : String)
  /-- The head, if no branch is checked out. -/
  | head
  /-- The head of a remote. -/
  | remoteHead (remote : String)
  /-- Any other reference, by its full name. -/
  | other (name : String)
deriving DecidableEq

namespace Reference

/-- The full name of a reference. -/
def fullName : Reference → List Char
  | branch name _ => "refs/heads/".toList ++ name.toList
  | remoteBranch name => "refs/remotes/".toList ++ name.toList
  | tag name => "refs/tags/".toList ++ name.toList
  | head => "HEAD".toList
  | remoteHead remote => "refs/remotes/".toList ++ (remote.toList ++ "/HEAD".toList)
  | other name => name.toList

/-- What is written before the full name. -/
def mark : Reference → List Char
  | branch _ true => "HEAD -> ".toList
  | tag _ => "tag: ".toList
  | _ => []

/-- A reference as it is written. -/
def written (reference : Reference) : List Char := reference.mark ++ reference.fullName

/-- Branches, remote branches and tags have labels with their short names. -/
def label? : Reference → Option Label
  | branch name _ => some ⟨name, .branch⟩
  | remoteBranch name => some ⟨name, .remoteBranch⟩
  | tag name => some ⟨name, .tag⟩
  | head | remoteHead _ | other _ => none

/-- No name has blanks in it. The name of a remote branch does not end like the head of the remote,
and that of another reference does not begin like that of a branch. -/
def Sound : Reference → Prop
  | branch name _ | tag name | remoteHead name => Solid name.toList
  | remoteBranch name => Solid name.toList ∧ ¬ "/HEAD".toList <:+ name.toList
  | head => True
  | other name =>
    Solid name.toList ∧ ¬ "refs/heads/".toList <+: name.toList ∧
      ¬ "refs/remotes/".toList <+: name.toList

instance : (reference : Reference) → Decidable reference.Sound
  | branch _ _ | tag _ | remoteHead _ => inferInstanceAs (Decidable (Solid _))
  | remoteBranch _ => inferInstanceAs (Decidable (Solid _ ∧ _))
  | head => inferInstanceAs (Decidable True)
  | other _ => inferInstanceAs (Decidable (Solid _ ∧ _))

variable {reference : Reference}

theorem Sound.solid (sound : reference.Sound) : Solid reference.fullName := by
  cases reference with
  | branch name current => exact .append (by decide) sound
  | remoteBranch name => exact .append (by decide) sound.1
  | tag name => exact .append (by decide) sound
  | head => exact (by decide : Solid "HEAD".toList)
  | remoteHead remote => exact .append (by decide) (.append sound (by decide))
  | other name => exact sound.1

/-! ### One reference -/

/-- The separator is not in a reference: what blanks there are stand in its mark. -/
theorem apart_written (sound : reference.Sound) : Apart ',' ' ' reference.written := by
  have mark : Apart ',' ' ' reference.mark := by
    unfold Reference.mark
    split <;> simp [Apart]
  -- The full name behind the mark cannot complete the separator, as there is no space in it.
  refine mark.append fun member => ?_
  have solid := sound.solid ' ' member
  exact absurd solid (by decide)

/-- A mark never stands alone. -/
theorem mark_eq_nil_or (reference : Reference) :
    reference.mark = [] ∨ reference.fullName ≠ [] := by
  cases reference with
  | branch name current => exact Or.inr (List.append_ne_nil_of_left_ne_nil (by decide) _)
  | tag name => exact Or.inr (List.append_ne_nil_of_left_ne_nil (by decide) _)
  | remoteBranch name => exact Or.inl rfl
  | head => exact Or.inl rfl
  | remoteHead remote => exact Or.inl rfl
  | other name => exact Or.inl rfl

/-- A reference has no blanks around it. -/
theorem trim_written (sound : reference.Sound) : trim reference.written = reference.written := by
  rcases reference.mark_eq_nil_or with bare | some
  · rw [written, bare, List.nil_append, trim_eq_self sound.solid]
  · -- It begins with a letter of its mark and ends as its full name does.
    have first : ∀ c ∈ reference.mark.head?, isBlank c = false := by
      unfold mark
      split <;> rintro c ⟨⟩ <;> decide
    refine trim_eq_self_of_ends (fun c start => ?_) (fun c stop => ?_)
    · rw [written, List.head?_append, Option.mem_def, Option.or_eq_some_iff] at start
      rcases start with start | ⟨-, start⟩
      · exact first c start
      · exact sound.solid c (List.mem_of_mem_head? start)
    · rw [written, List.getLast?_append_of_ne_nil _ some] at stop
      exact sound.solid c (List.mem_of_mem_getLast? stop)

theorem label?_written (sound : reference.Sound) :
    Decoration.label? reference.written = reference.label? := by
  cases reference with
  | branch name current =>
    have read := label?_branch name.toList
    have readCurrent := label?_current name.toList
    rw [String.ofList_toList] at read readCurrent
    cases current with
    | false => exact read
    | true => exact readCurrent
  | remoteBranch name =>
    have read := label?_remote name.toList
    obtain ⟨-, unlike⟩ := sound
    rw [← List.isSuffixOf_iff_suffix] at unlike
    rw [if_neg unlike, String.ofList_toList] at read
    exact read
  | tag name =>
    have read := label?_tag name.toList
    rw [String.ofList_toList] at read
    exact read
  | head => rfl
  | remoteHead remote =>
    have read := label?_remote (remote.toList ++ "/HEAD".toList)
    have suffix := List.isSuffixOf_iff_suffix.mpr (List.suffix_append remote.toList "/HEAD".toList)
    rw [if_pos suffix] at read
    exact read
  | other name => exact label?_other sound.1 sound.2.1 sound.2.2

end Reference

/-! ### The list -/

/-- References as they are listed. -/
def write (references : List Reference) : List Char :=
  ", ".toList.intercalate (references.map Reference.written)

/-- An empty piece would give no label anyway. -/
theorem filterMap_label?_filter (pieces : List (List Char)) :
    (pieces.filter fun piece => !piece.isEmpty).filterMap label? = pieces.filterMap label? := by
  rw [List.filterMap_filter]
  refine List.filterMap_congr fun piece _ => ?_
  cases piece <;> rfl

/-- The labels of a list are those of its branches, its remote branches and its tags, in order. -/
theorem parse_written {references : List Reference}
    (sound : ∀ reference ∈ references, reference.Sound) :
    parse (write references) = references.filterMap Reference.label? := by
  cases references with
  | nil =>
    -- The empty text is one empty piece.
    rfl
  | cons first rest =>
    set references := first :: rest
    have cut : splitOnPair ',' ' ' (write references) = references.map Reference.written :=
      splitOnPair_intercalate (by decide) (List.cons_ne_nil _ _) <|
        List.forall_mem_map.mpr fun reference here => Reference.apart_written (sound reference here)
    have trimmed : (references.map Reference.written).map trim =
        references.map Reference.written := by
      rw [List.map_map]
      exact List.map_congr_left fun reference here => Reference.trim_written (sound reference here)
    rw [parse, cut, trimmed, filterMap_label?_filter, List.filterMap_map]
    exact List.filterMap_congr fun reference here => Reference.label?_written (sound reference here)

/-- References with names that look like separators, marks and other kinds. -/
def sampleReferences : List Reference :=
  [.branch "a," true, .branch "refs/remotes/b" false, .remoteBranch "origin/->", .tag "tag:c,",
    .remoteHead "origin", .head, .other "refs/stash"]

theorem parse_written_sampleReferences :
    (∀ reference ∈ sampleReferences, reference.Sound) ∧
      write sampleReferences =
        ("HEAD -> refs/heads/a,, refs/heads/refs/remotes/b, refs/remotes/origin/->, " ++
          "tag: refs/tags/tag:c,, refs/remotes/origin/HEAD, HEAD, refs/stash").toList ∧
      parse (write sampleReferences) =
        [⟨"a,", .branch⟩, ⟨"refs/remotes/b", .branch⟩, ⟨"origin/->", .remoteBranch⟩,
          ⟨"tag:c,", .tag⟩] := by
  have sound : ∀ reference ∈ sampleReferences, reference.Sound := by decide
  exact ⟨sound, by decide +kernel, parse_written sound⟩

end CommitHistory.Decoration
