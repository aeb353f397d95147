import Mathlib

/-!
# Lexical paths

Unix paths as texts: the normal form without empty elements, `.` and inner `..`, and what
it says about where a path leads.
-/

set_option autoImplicit false

namespace CodePush.Foundation

/-- The characters that paths give a meaning. -/
class PathSyntax (α : Type) where
  slash : α
  dot : α
  apart : slash ≠ dot

instance : PathSyntax Char := ⟨'/', '.', by decide⟩

namespace LexicalPath

open PathSyntax

variable {α : Type} [DecidableEq α] [PathSyntax α]

/-!
## Normal form
-/

def isAbs (path : List α) : Bool := path.head? = some slash

/-- One more element after those on the stack, the last of which is on top: `..` takes one
back, if there is one to take back. Above the root there is nothing. -/
def push (rooted : Bool) (stack : List (List α)) (element : List α) : List (List α) :=
  if element = [] ∨ element = [dot] then stack
  else if element = [dot, dot] then
    match stack with
    | [] => if rooted then [] else [element]
    | top :: below => if top = [dot, dot] then element :: stack else below
  else element :: stack

/-- The elements that remain of a path. -/
def elements (rooted : Bool) (path : List α) : List (List α) :=
  ((path.splitOn slash).foldl (push rooted) []).reverse

def render (rooted : Bool) (elements : List (List α)) : List α :=
  if rooted then slash :: [slash].intercalate elements
  else if elements = [] then [dot]
  else [slash].intercalate elements

def clean (path : List α) : List α := render (isAbs path) (elements (isAbs path) path)

/-- Two paths joined; an empty first one is ignored. -/
def join (root path : List α) : List α :=
  if root = [] then if path = [] then [] else clean path
  else clean (root ++ slash :: path)

/-- One path after another as they are written; a path from the root replaces the first. -/
def extend (path part : List α) : List α :=
  if isAbs part then part
  else if path = [] ∨ path.getLast? = some slash then path ++ part
  else path ++ slash :: part

/-!
## Names
-/

/-- An element that leads one step down. -/
structure IsName (element : List α) : Prop where
  notEmpty : element ≠ []
  notDot : element ≠ [dot]
  notDots : element ≠ [dot, dot]
  notSlash : slash ∉ element

theorem push_name {rooted : Bool} {stack : List (List α)} {name : List α} (isName : IsName name) :
    push rooted stack name = name :: stack := by
  have proper : ¬ (name = [] ∨ name = [dot]) := by
    rintro (rfl | rfl)
    · exact isName.notEmpty rfl
    · exact isName.notDot rfl
  unfold push
  rw [if_neg proper, if_neg isName.notDots]

theorem foldl_push_names {rooted : Bool} {names : List (List α)} (areNames : ∀ name ∈ names, IsName name)
    (stack : List (List α)) : names.foldl (push rooted) stack = names.reverse ++ stack := by
  induction names generalizing stack with
  | nil => rfl
  | cons name names ih =>
      rw [List.foldl_cons, push_name (areNames name List.mem_cons_self),
        ih fun other member => areNames other (List.mem_cons_of_mem _ member)]
      simp

/-- A normal form goes up first, and then down. -/
def Settled (rooted : Bool) (stack : List (List α)) : Prop :=
  ∃ names ups, stack = names ++ List.replicate ups [dot, dot] ∧ (∀ name ∈ names, IsName name) ∧
    (rooted = true → ups = 0)

theorem Settled.push {rooted : Bool} {stack : List (List α)} (settled : Settled rooted stack)
    {element : List α} (inside : slash ∉ element) : Settled rooted (push rooted stack element) := by
  obtain ⟨names, ups, rfl, areNames, grounded⟩ := settled
  unfold LexicalPath.push
  split
  case isTrue => exact ⟨names, ups, rfl, areNames, grounded⟩
  case isFalse proper =>
    split
    case isTrue dots =>
      subst dots
      cases names with
      | nil =>
          cases ups with
          | zero =>
              cases rooted with
              | true => exact ⟨[], 0, rfl, areNames, fun _ => rfl⟩
              | false => exact ⟨[], 1, rfl, areNames, fun rooted => by cases rooted⟩
          | succ ups =>
              have free : rooted = false := Bool.eq_false_iff.mpr fun rooted => by cases grounded rooted
              subst free
              rw [List.nil_append, List.replicate_succ]
              dsimp only
              rw [if_pos rfl]
              exact ⟨[], ups + 2, rfl, areNames, fun rooted => by cases rooted⟩
      | cons name names =>
          rw [List.cons_append]
          dsimp only
          rw [if_neg (areNames name List.mem_cons_self).notDots]
          exact ⟨names, ups, rfl, fun other member => areNames other (List.mem_cons_of_mem _ member), grounded⟩
    case isFalse notDots =>
      refine ⟨element :: names, ups, rfl, ?_, grounded⟩
      intro name member
      cases member with
      | head => exact ⟨fun empty => proper (.inl empty), fun single => proper (.inr single), notDots, inside⟩
      | tail _ member => exact areNames name member

theorem Settled.foldl {rooted : Bool} {read : List (List α)} (inside : ∀ element ∈ read, slash ∉ element)
    {stack : List (List α)} (settled : Settled rooted stack) :
    Settled rooted (read.foldl (LexicalPath.push rooted) stack) := by
  induction read generalizing stack with
  | nil => exact settled
  | cons element read ih =>
      exact ih (fun other member => inside other (List.mem_cons_of_mem _ member))
        (settled.push (inside element List.mem_cons_self))

/-- What is split has no separator left. -/
theorem slash_not_mem_of_mem_splitOn {path : List α} :
    ∀ element ∈ path.splitOn slash, (slash : α) ∉ element := by
  induction path with
  | nil => simp
  | cons char path ih =>
      rw [List.splitOn_cons_eq_if_modifyHead]
      split
      case isTrue =>
        intro element member
        cases member with
        | head => exact List.not_mem_nil
        | tail _ member => exact ih element member
      case isFalse other =>
        cases split : path.splitOn slash with
        | nil => exact absurd split (List.splitOn_ne_nil _ _)
        | cons first rest =>
            rw [split] at ih
            intro element member
            cases member with
            | head =>
                intro inside
                rcases List.mem_cons.mp inside with same | later
                · exact other (beq_iff_eq.mpr same.symm)
                · exact ih first List.mem_cons_self later
            | tail _ member => exact ih element (List.mem_cons_of_mem _ member)

theorem settled_elements (rooted : Bool) (path : List α) : Settled rooted (elements rooted path).reverse := by
  unfold elements
  rw [List.reverse_reverse]
  refine Settled.foldl slash_not_mem_of_mem_splitOn ⟨[], 0, rfl, ?_, fun _ => rfl⟩
  intro name member
  cases member

/-!
## Rendering
-/

omit [DecidableEq α] in
theorem intercalate_append {base names : List (List α)} (someBase : base ≠ []) (someNames : names ≠ []) :
    [slash].intercalate (base ++ names) = [slash].intercalate base ++ slash :: [slash].intercalate names := by
  induction base with
  | nil => exact absurd rfl someBase
  | cons element base ih =>
      cases base with
      | nil =>
          rw [List.cons_append, List.nil_append, List.intercalate_cons_of_ne_nil someNames,
            List.intercalate_singleton, List.append_assoc]
          rfl
      | cons next base =>
          rw [List.cons_append, List.intercalate_cons_of_ne_nil (by simp),
            List.intercalate_cons_of_ne_nil (by simp), ih (by simp)]
          simp

theorem splitOn_names {names : List (List α)} (areNames : ∀ name ∈ names, IsName name) (some : names ≠ []) :
    ([slash].intercalate names).splitOn (slash : α) = names :=
  List.splitOn_intercalate slash (fun name member => (areNames name member).notSlash) some

/-- Names are read back as they were written. -/
theorem intercalate_injective {names others : List (List α)} (areNames : ∀ name ∈ names, IsName name)
    (areNames' : ∀ name ∈ others, IsName name) (some : names ≠ []) (some' : others ≠ [])
    (same : [slash].intercalate names = [(slash : α)].intercalate others) : names = others := by
  rw [← splitOn_names areNames some, same, splitOn_names areNames' some']

theorem isAbs_append {root rest : List α} (some : root ≠ []) : isAbs (root ++ rest) = isAbs root := by
  cases root with
  | nil => exact absurd rfl some
  | cons char root => rfl

theorem isAbs_dot : isAbs ([dot] : List α) = false := by
  unfold isAbs
  simp [PathSyntax.apart.symm]

theorem isAbs_slash {path : List α} : isAbs (slash :: path) = true := by
  unfold isAbs
  simp

theorem isAbs_names {names : List (List α)} (areNames : ∀ name ∈ names, IsName name) (some : names ≠ []) :
    isAbs ([slash].intercalate names) = false := by
  cases names with
  | nil => exact absurd rfl some
  | cons name names =>
      have isName := areNames name List.mem_cons_self
      have begins : isAbs name = false := by
        cases name with
        | nil => exact absurd rfl isName.notEmpty
        | cons char name =>
            unfold isAbs
            refine decide_eq_false fun same => isName.notSlash ?_
            rw [← Option.some.inj same]
            exact List.mem_cons_self
      by_cases last : names = []
      · subst last
        rw [List.intercalate_singleton]
        exact begins
      · rw [List.intercalate_cons_of_ne_nil last, List.append_assoc, isAbs_append isName.notEmpty]
        exact begins

theorem clean_ne_nil (path : List α) : clean path ≠ [] := by
  unfold clean render
  split
  case isTrue => simp
  case isFalse =>
    split
    case isTrue => simp
    case isFalse some =>
      obtain ⟨names, ups, shape, areNames, _⟩ := settled_elements (isAbs path) path
      cases listed : elements (isAbs path) path with
      | nil => exact absurd listed some
      | cons element rest =>
          have member : element ∈ (elements (isAbs path) path).reverse := by simp [listed]
          have notEmpty : element ≠ [] := by
            rw [shape] at member
            rcases List.mem_append.mp member with name | dots
            · exact (areNames element name).notEmpty
            · rw [(List.mem_replicate.mp dots).2]
              simp
          cases rest with
          | nil =>
              rw [List.intercalate_singleton]
              exact notEmpty
          | cons next rest =>
              rw [List.intercalate_cons_of_ne_nil (by simp)]
              simp [notEmpty]

/-!
## Where a path leads
-/

/-- The names after a path in normal form. -/
def descend (root : List α) (names : List (List α)) : List α :=
  if root = [dot] then [slash].intercalate names
  else if root = [slash] then slash :: [slash].intercalate names
  else root ++ slash :: [slash].intercalate names

/-- A path that leads from the root down, by at least one name. -/
def Below (path root : List α) : Prop :=
  ∃ names, names ≠ [] ∧ (∀ name ∈ names, IsName name) ∧ path = descend root names

/-- One step in a tree of directories: `..` stays at the root. -/
def walk (place : List (List α)) (element : List α) : List (List α) :=
  if element = [] ∨ element = [dot] then place
  else if element = [dot, dot] then place.dropLast
  else place ++ [element]

/-- The place that a path leads to from a working directory, without links. -/
def locate (directory : List (List α)) (path : List α) : List (List α) :=
  (path.splitOn slash).foldl walk (if isAbs path then [] else directory)

theorem foldl_walk_names {names : List (List α)} (areNames : ∀ name ∈ names, IsName name)
    (place : List (List α)) : names.foldl walk place = place ++ names := by
  induction names generalizing place with
  | nil => simp
  | cons name names ih =>
      have isName := areNames name List.mem_cons_self
      have proper : ¬ (name = [] ∨ name = [dot]) := by
        rintro (rfl | rfl)
        · exact isName.notEmpty rfl
        · exact isName.notDot rfl
      have step : walk place name = place ++ [name] := by
        unfold walk
        rw [if_neg proper, if_neg isName.notDots]
      rw [List.foldl_cons, step, ih fun other member => areNames other (List.mem_cons_of_mem _ member)]
      simp

theorem locate_nil (directory : List (List α)) : locate directory [] = directory := by
  unfold locate isAbs
  simp [walk]

theorem locate_append {path : List α} (some : path ≠ []) (part : List α) (directory : List (List α)) :
    locate directory (path ++ slash :: part) = (part.splitOn slash).foldl walk (locate directory path) := by
  unfold locate
  rw [List.splitOn_append_cons_self, isAbs_append some, List.foldl_append]

/-- A path leads on from where the one before it leads. -/
theorem locate_extend (directory : List (List α)) (path part : List α) :
    locate directory (extend path part) = locate (locate directory path) part := by
  unfold extend
  split
  case isTrue absolute =>
    unfold locate
    rw [absolute, if_pos rfl, if_pos rfl]
  case isFalse relative =>
    have continues : locate (locate directory path) part =
        (part.splitOn slash).foldl walk (locate directory path) := by
      rw [locate, if_neg relative]
    split
    case isTrue ends =>
      rcases ends with rfl | ends
      · rw [List.nil_append, locate_nil]
      · obtain ⟨front, rfl⟩ := List.getLast?_eq_some_iff.mp ends
        rw [List.append_assoc, List.singleton_append, continues]
        by_cases empty : front = []
        · subst empty
          have split : ([slash] : List α).splitOn slash = [[], []] := by
            rw [List.splitOn_cons_eq_if_modifyHead, if_pos (beq_self_eq_true _)]
            rfl
          unfold locate
          rw [List.nil_append, List.nil_append, isAbs_slash, isAbs_slash, split,
            List.splitOn_cons_eq_if_modifyHead, if_pos (beq_self_eq_true _)]
          rfl
        · rw [locate_append empty, locate_append empty []]
          rfl
    case isFalse apart =>
      rw [continues, locate_append fun empty => apart (.inl empty)]

theorem locate_name {name : List α} (isName : IsName name) (directory : List (List α)) :
    locate directory name = directory ++ [name] := by
  have whole : name.splitOn slash = [name] := List.splitOn_eq_singleton isName.notSlash
  have relative : isAbs name = false := by
    have absolute := isAbs_names (List.forall_mem_singleton.mpr isName) (List.cons_ne_nil _ _)
    rwa [List.intercalate_singleton] at absolute
  unfold locate
  rw [relative, if_neg Bool.false_ne_true, whole]
  exact foldl_walk_names (List.forall_mem_singleton.mpr isName) directory

/-- What is below a path in the text is below it in the tree, wherever it is read. -/
theorem Below.locate {path root : List α} (below : Below path root) (some : root ≠ [])
    (directory : List (List α)) :
    ∃ names, names ≠ [] ∧ LexicalPath.locate directory path = LexicalPath.locate directory root ++ names := by
  obtain ⟨names, someNames, areNames, rfl⟩ := below
  refine ⟨names, someNames, ?_⟩
  unfold descend
  split
  case isTrue here =>
    subst here
    have whole : ([dot] : List α).splitOn slash = [[dot]] := List.splitOn_eq_singleton (by
      rw [List.mem_singleton]
      exact apart)
    have stays : walk directory [(dot : α)] = directory := if_pos (.inr rfl)
    unfold LexicalPath.locate
    rw [splitOn_names areNames someNames, foldl_walk_names areNames, isAbs_names areNames someNames, whole,
      isAbs_dot, if_neg (by decide), List.foldl_cons, stays]
    rfl
  case isFalse =>
    split
    case isTrue here =>
      subst here
      have split : (slash :: [slash].intercalate names : List α).splitOn slash = [] :: names := by
        rw [List.splitOn_cons_eq_if_modifyHead, if_pos (beq_self_eq_true _), splitOn_names areNames someNames]
      have whole : ([slash] : List α).splitOn slash = [[], []] := by
        rw [List.splitOn_cons_eq_if_modifyHead, if_pos (beq_self_eq_true _)]
        rfl
      unfold LexicalPath.locate
      rw [split, whole, isAbs_slash, isAbs_slash, List.foldl_cons, foldl_walk_names areNames]
      rfl
    case isFalse =>
      unfold LexicalPath.locate
      rw [List.splitOn_append_cons_self, isAbs_append some, List.foldl_append, splitOn_names areNames someNames,
        foldl_walk_names areNames]

/-!
## Joining
-/

/-- Names after a normal form stay as they are. -/
theorem render_append {rooted : Bool} {base names : List (List α)} (settled : Settled rooted base.reverse)
    (someNames : names ≠ []) : render rooted (base ++ names) = descend (render rooted base) names := by
  have proper : ∀ element ∈ base, element ≠ [] ∧ element ≠ [dot] ∧ slash ∉ element := by
    intro element member
    obtain ⟨downs, ups, same, areNames, _⟩ := settled
    rw [← List.mem_reverse, same] at member
    rcases List.mem_append.mp member with name | dots
    · exact ⟨(areNames element name).notEmpty, (areNames element name).notDot, (areNames element name).notSlash⟩
    · rw [(List.mem_replicate.mp dots).2]
      simp [apart]
  have nothing : base ++ names ≠ [] := by
    intro empty
    exact someNames (List.append_eq_nil_iff.mp empty).2
  have reread : base ≠ [] → ([slash].intercalate base).splitOn (slash : α) = base := fun some =>
    List.splitOn_intercalate slash (fun element member => (proper element member).2.2) some
  unfold render
  cases base with
  | nil =>
      rw [List.nil_append]
      cases rooted with
      | true =>
          rw [if_pos rfl, if_pos rfl]
          unfold descend
          rw [List.intercalate_nil, if_neg (by simp [apart]), if_pos rfl]
      | false =>
          rw [if_neg (by decide), if_neg someNames, if_neg (by decide), if_pos rfl]
          unfold descend
          rw [if_pos rfl]
  | cons element base =>
      have some : element :: base ≠ [] := by simp
      have written : [slash].intercalate (element :: base) ≠ ([] : List α) := by
        intro empty
        have split := reread some
        rw [empty, List.splitOn_nil] at split
        exact (proper element List.mem_cons_self).1 (List.cons.inj split).1.symm
      rw [intercalate_append some someNames]
      cases rooted with
      | true =>
          rw [if_pos rfl, if_pos rfl]
          unfold descend
          rw [if_neg (by simp [apart]), if_neg (by simpa using written)]
          rfl
      | false =>
          have notDot : [slash].intercalate (element :: base) ≠ [(dot : α)] := by
            intro single
            have split := reread some
            rw [single, List.splitOn_eq_singleton (by rw [List.mem_singleton]; exact apart)] at split
            exact (proper element List.mem_cons_self).2.1 (List.cons.inj split).1.symm
          have notSlash : [slash].intercalate (element :: base) ≠ [(slash : α)] := by
            intro single
            have split := reread some
            rw [single, List.splitOn_cons_eq_if_modifyHead, if_pos (beq_self_eq_true _)] at split
            exact (proper element List.mem_cons_self).1 (List.cons.inj split).1.symm
          rw [if_neg (by decide), if_neg nothing, if_neg (by decide), if_neg some]
          unfold descend
          rw [if_neg notDot, if_neg notSlash]

/-- Names joined to a path are below its normal form. -/
theorem join_names {root : List α} (some : root ≠ []) {names : List (List α)} (someNames : names ≠ [])
    (areNames : ∀ name ∈ names, IsName name) :
    join root ([slash].intercalate names) = descend (clean root) names := by
  have split : elements (isAbs root) (root ++ slash :: [slash].intercalate names) =
      elements (isAbs root) root ++ names := by
    unfold elements
    rw [List.splitOn_append_cons_self, List.foldl_append, splitOn_names areNames someNames,
      foldl_push_names areNames]
    simp
  unfold join clean
  rw [if_neg some, isAbs_append some, split]
  exact render_append (settled_elements _ _) someNames

/-- Different names joined to a path give different paths. -/
theorem descend_injective {root : List α} {names others : List (List α)} (someNames : names ≠ [])
    (someOthers : others ≠ []) (areNames : ∀ name ∈ names, IsName name)
    (areNames' : ∀ name ∈ others, IsName name) (same : descend root names = descend root others) :
    names = others := by
  refine intercalate_injective areNames areNames' someNames someOthers ?_
  unfold descend at same
  split at same
  case isTrue => exact same
  case isFalse =>
    split at same
    case isTrue => exact (List.cons.inj same).2
    case isFalse => exact (List.cons.inj (List.append_cancel_left same)).2

/-- A path in normal form that leads neither to the working directory, nor to the root, nor
up, is made of names. -/
theorem names_of_clean {path : List α} (same : clean path = path) (relative : isAbs path = false)
    (inside : path ≠ [dot]) (notParent : path ≠ [dot, dot]) (notAbove : ¬ [dot, dot, slash] <+: path) :
    ∃ names, names ≠ [] ∧ (∀ name ∈ names, IsName name) ∧ path = [slash].intercalate names := by
  obtain ⟨downs, ups, shape, areNames, _⟩ := settled_elements false path
  have shape : elements false path = List.replicate ups [dot, dot] ++ downs.reverse := by
    rw [← List.reverse_reverse (elements false path), shape]
    simp
  unfold clean render at same
  rw [relative, if_neg (by decide)] at same
  split at same
  case isTrue => exact absurd same.symm inside
  case isFalse some =>
    rw [shape] at same some
    cases ups with
    | zero =>
        refine ⟨downs.reverse, ?_, ?_, ?_⟩
        · simpa using some
        · simpa using areNames
        · simpa using same.symm
    | succ ups =>
        rw [List.replicate_succ, List.cons_append] at same
        cases rest : List.replicate ups ([dot, dot] : List α) ++ downs.reverse with
        | nil =>
            rw [rest, List.intercalate_singleton] at same
            exact absurd same.symm notParent
        | cons next others =>
            rw [rest, List.intercalate_cons_of_ne_nil (by simp)] at same
            refine absurd ?_ notAbove
            rw [← same]
            exact ⟨[slash].intercalate (next :: others), by simp⟩

end LexicalPath

end CodePush.Foundation
