import Arbor.Source.Syntax.Use

-- The text of imported names can be read in one way only. A name ends at the first sign, and the
-- sign there tells the forms of a tree apart: a colon, a space, a star, a brace, or the end of the
-- tree.
namespace Arbor.Source

-- The signs that a text of imported names is put together with.
def signs : List Char := [':', ',', '\x7b', '\x7d', '*', ' ']

def IsName (name : String) : Prop := name.toList ≠ [] ∧ ∀ c ∈ name.toList, c ∉ signs

instance (name : String) : Decidable (IsName name) :=
  @instDecidableAnd _ _ _ (List.decidableBAll _ _)

mutual

-- All names in a tree, in order.
def UseTree.names : UseTree → List String
  | .path name rest => name :: rest.names
  | .name name => [name]
  | .rename name other => [name, other]
  | .glob => []
  | .group items => namesAll items

def namesAll : List UseTree → List String
  | [] => []
  | item :: rest => item.names ++ namesAll rest

end

def UseTree.Named (tree : UseTree) : Prop := ∀ name ∈ tree.names, IsName name

instance (tree : UseTree) : Decidable tree.Named := List.decidableBAll _ _

-- The name that a tree begins with.
def UseTree.lead : UseTree → List Char
  | .path first _ => first.toList
  | .name first => first.toList
  | .rename first _ => first.toList
  | .glob => []
  | .group _ => []

-- The text of a list of trees, as it stands between braces.
def listed (items : List UseTree) : List Char := (", ".intercalate (useTreesShown items)).toList

-- What follows the first tree of a group.
def further : List UseTree → List Char
  | [] => []
  | next :: items => ',' :: ' ' :: listed (next :: items)

-- What follows the first name of a tree.
def UseTree.tail : UseTree → List Char
  | .path _ rest => ':' :: ':' :: rest.shown.toList
  | .name _ => []
  | .rename _ other => ' ' :: 'a' :: 's' :: ' ' :: other.toList
  | .glob => ['*']
  | .group items => '\x7b' :: (listed items ++ ['\x7d'])

-- The sign that tells the form of a tree; a single name has none.
def UseTree.sign : UseTree → Option Char
  | .path .. => some ':'
  | .name _ => none
  | .rename .. => some ' '
  | .glob => some '*'
  | .group _ => some '\x7b'

-- What may stand behind a tree: the end, or a comma or a brace of the group around it.
def Ends (rest : List Char) : Prop := ∀ c ∈ rest.head?, c = ',' ∨ c = '\x7d'

-- A name ends here.
def NameEnds (rest : List Char) : Prop := ∀ c ∈ rest.head?, c ∈ signs

variable {left right : UseTree} {lefts rights : List UseTree} {rest other : List Char}

theorem shown_eq_lead_tail (tree : UseTree) : tree.shown.toList = tree.lead ++ tree.tail := by
  cases tree <;> simp [UseTree.shown, UseTree.lead, UseTree.tail, listed]

theorem listed_cons (item : UseTree) (items : List UseTree) :
    listed (item :: items) = item.shown.toList ++ further items := by
  cases items <;> simp [listed, further, useTreesShown]

theorem ends_further (items : List UseTree) (rest : List Char) :
    Ends (further items ++ '\x7d' :: rest) := by
  intro c ahead
  cases items with
  | nil => cases ahead; exact .inr rfl
  | cons next items => cases ahead; exact .inl rfl

-- A comma says that the group goes on, a brace that it ends.
theorem listed_of_further
    (same : further lefts ++ '\x7d' :: rest = further rights ++ '\x7d' :: other) :
    listed lefts ++ '\x7d' :: rest = listed rights ++ '\x7d' :: other := by
  cases lefts with
  | nil =>
    cases rights with
    | nil => exact same
    | cons right rights => cases same
  | cons left lefts =>
    cases rights with
    | nil => cases same
    | cons right rights => exact (List.cons.inj (List.cons.inj same).2).2

theorem Ends.nameEnds (ends : Ends rest) : NameEnds rest := by
  intro c ahead
  rcases ends c ahead with rfl | rfl <;> decide

theorem nameEnds_tail (tree : UseTree) (ends : Ends rest) : NameEnds (tree.tail ++ rest) := by
  cases tree with
  | name name => exact ends.nameEnds
  | path name rest | rename name other | glob | group items =>
    intro c ahead
    cases ahead
    decide

theorem not_sign_of_mem_lead (named : left.Named) : ∀ c ∈ left.lead, c ∉ signs := by
  cases left with
  | path name rest | name name | rename name other =>
    exact (named name (by simp [UseTree.names])).2
  | glob | group items => exact List.forall_mem_nil _

-- Names of the same text are the same, since both go up to the first sign.
theorem append_inj_of_nameEnds {word otherWord : List Char} (free : ∀ c ∈ word, c ∉ signs)
    (otherFree : ∀ c ∈ otherWord, c ∉ signs) (ends : NameEnds rest) (otherEnds : NameEnds other)
    (same : word ++ rest = otherWord ++ other) : word = otherWord ∧ rest = other := by
  induction word generalizing otherWord with
  | nil =>
    cases otherWord with
    | nil => exact ⟨rfl, same⟩
    | cons d otherWord =>
      rw [List.nil_append] at same
      have sign := ends d (by rw [same]; rfl)
      exact absurd sign (otherFree d List.mem_cons_self)
  | cons c word ih =>
    cases otherWord with
    | nil =>
      rw [List.nil_append] at same
      have sign := otherEnds c (by rw [← same]; rfl)
      exact absurd sign (free c List.mem_cons_self)
    | cons d otherWord =>
      obtain ⟨rfl, behind⟩ := List.cons.inj same
      obtain ⟨_, free⟩ := List.forall_mem_cons.mp free
      obtain ⟨_, otherFree⟩ := List.forall_mem_cons.mp otherFree
      obtain ⟨rfl, rests⟩ := ih free otherFree behind
      exact ⟨rfl, rests⟩

-- The text of a tree does not begin like the end of a group.
theorem head_shown (named : left.Named) :
    ∃ c text, left.shown.toList = c :: text ∧ c ≠ '\x7d' := by
  cases left with
  | path name rest | name name | rename name other =>
    obtain ⟨filled, free⟩ := named name (by simp [UseTree.names])
    obtain ⟨c, text, spelled⟩ := List.exists_cons_of_ne_nil filled
    rw [shown_eq_lead_tail, UseTree.lead, spelled]
    refine ⟨c, _, rfl, ?_⟩
    rintro rfl
    exact free _ (by rw [spelled]; exact List.mem_cons_self) (by decide)
  | glob => exact ⟨'*', [], rfl, by decide⟩
  | group items => exact ⟨'\x7b', _, shown_eq_lead_tail (.group items), by decide⟩

theorem listed_cons_ne (named : left.Named) :
    listed (left :: lefts) ++ '\x7d' :: rest ≠ '\x7d' :: other := by
  obtain ⟨c, text, spelled, opens⟩ := head_shown named
  rw [listed_cons, spelled]
  intro same
  exact opens (List.cons.inj same).1

-- The sign is the first character behind the name, unless a group goes on or ends there.
theorem sign_tail (tree : UseTree) (ends : Ends rest) :
    (tree.tail ++ rest).head?.filter (fun c => c ≠ ',' ∧ c ≠ '\x7d') = tree.sign := by
  cases tree with
  | name name =>
    cases rest with
    | nil => rfl
    | cons c rest => rcases ends c rfl with rfl | rfl <;> rfl
  | path name rest | rename name other | glob | group items => rfl

-- Texts that agree have the same name ahead, the same form and the same text behind the name.
theorem parts_of_append (named : left.Named) (otherNamed : right.Named) (ends : Ends rest)
    (otherEnds : Ends other) (same : left.shown.toList ++ rest = right.shown.toList ++ other) :
    left.lead = right.lead ∧ left.sign = right.sign ∧ left.tail ++ rest = right.tail ++ other := by
  rw [shown_eq_lead_tail, shown_eq_lead_tail, List.append_assoc, List.append_assoc] at same
  obtain ⟨leads, tails⟩ := append_inj_of_nameEnds (not_sign_of_mem_lead named)
    (not_sign_of_mem_lead otherNamed) (nameEnds_tail left ends) (nameEnds_tail right otherEnds) same
  refine ⟨leads, ?_, tails⟩
  rw [← sign_tail left ends, ← sign_tail right otherEnds, tails]

theorem named_of_path {name : String} (named : (UseTree.path name left).Named) : left.Named :=
  fun other member => named other (List.mem_cons_of_mem name member)

theorem named_of_group (named : (UseTree.group (left :: lefts)).Named) :
    left.Named ∧ (UseTree.group lefts).Named :=
  ⟨fun name member => named name (List.mem_append_left _ member),
    fun name member => named name (List.mem_append_right _ member)⟩

-- Two trees are taken apart together, the first one by recursion. What follows a tree is kept in the
-- statement, since the text of a group goes on behind each of its trees.
mutual

theorem shown_append_inj (left : UseTree) {right : UseTree} {rest other : List Char}
    (named : left.Named) (otherNamed : right.Named) (ends : Ends rest) (otherEnds : Ends other)
    (same : left.shown.toList ++ rest = right.shown.toList ++ other) :
    left = right ∧ rest = other := by
  obtain ⟨leads, forms, tails⟩ := parts_of_append named otherNamed ends otherEnds same
  cases left with
  | path name inner =>
    cases right with
    | path otherName otherInner =>
      obtain ⟨rfl, rests⟩ := shown_append_inj inner (named_of_path named)
        (named_of_path otherNamed) ends otherEnds (by simpa [UseTree.tail] using tails)
      exact ⟨by rw [String.toList_inj.mp leads], rests⟩
    | _ => cases forms
  | name name =>
    cases right with
    | name otherName => exact ⟨by rw [String.toList_inj.mp leads], tails⟩
    | _ => cases forms
  | rename name newName =>
    cases right with
    | rename otherName otherNew =>
      obtain ⟨newNames, rests⟩ := append_inj_of_nameEnds (named newName (by simp [UseTree.names])).2
        (otherNamed otherNew (by simp [UseTree.names])).2 ends.nameEnds otherEnds.nameEnds
        (by simpa [UseTree.tail] using tails)
      exact ⟨by rw [String.toList_inj.mp leads, String.toList_inj.mp newNames], rests⟩
    | _ => cases forms
  | glob =>
    cases right with
    | glob => exact ⟨rfl, List.append_cancel_left tails⟩
    | _ => cases forms
  | group items =>
    cases right with
    | group otherItems =>
      obtain ⟨rfl, rests⟩ := listed_append_inj items named otherNamed
        (by simpa [UseTree.tail] using tails)
      exact ⟨rfl, rests⟩
    | _ => cases forms

theorem listed_append_inj (lefts : List UseTree) {rights : List UseTree} {rest other : List Char}
    (named : (UseTree.group lefts).Named) (otherNamed : (UseTree.group rights).Named)
    (same : listed lefts ++ '\x7d' :: rest = listed rights ++ '\x7d' :: other) :
    lefts = rights ∧ rest = other := by
  cases lefts with
  | nil =>
    cases rights with
    | nil => exact ⟨rfl, (List.cons.inj same).2⟩
    | cons right rights => exact absurd same.symm (listed_cons_ne (named_of_group otherNamed).1)
  | cons left lefts =>
    cases rights with
    | nil => exact absurd same (listed_cons_ne (named_of_group named).1)
    | cons right rights =>
      obtain ⟨first, later⟩ := named_of_group named
      obtain ⟨otherFirst, otherLater⟩ := named_of_group otherNamed
      rw [listed_cons, listed_cons, List.append_assoc, List.append_assoc] at same
      obtain ⟨rfl, behind⟩ := shown_append_inj left first otherFirst (ends_further lefts rest)
        (ends_further rights other) same
      obtain ⟨rfl, rests⟩ := listed_append_inj lefts later otherLater (listed_of_further behind)
      exact ⟨rfl, rests⟩

end

-- Trees of imported names with the same text are the same.
theorem useTree_unambiguous (left right : UseTree) (named : left.Named) (otherNamed : right.Named) :
    left.shown = right.shown ↔ left = right := by
  constructor
  · intro same
    have ends : Ends [] := nofun
    exact (shown_append_inj left named otherNamed ends ends (by rw [same])).1
  · rintro rfl
    rfl

-- The same names, with the comma once inside and once outside the inner group.
theorem useTree_unambiguous_nested :
    let left : UseTree := .path "a" (.group [.group [.glob, .rename "b" "_"], .name "c"])
    let right : UseTree := .path "a" (.group [.group [.glob], .rename "b" "_", .name "c"])
    left.Named ∧ right.Named ∧ (left.shown = right.shown ↔ left = right) := by
  refine ⟨by decide, by decide, ?_⟩
  exact useTree_unambiguous _ _ (by decide) (by decide)

end Arbor.Source
