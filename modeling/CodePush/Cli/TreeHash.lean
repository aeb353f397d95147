import CodePush.Core.Canonical
import CodePush.Core.Digests
import CodePush.Core.Utf8
import CodePush.Foundation.LexicalPath

/-!
# Hashes of directory trees

`hash_path_excluding` of `cli/src/auto.rs`: one line for each file below a directory, sorted by path.
-/

set_option autoImplicit false

namespace CodePush.Cli

open CodePush.Core CodePush.Foundation

/-- What is at a path, symbolic links followed. The entries of a directory are in the order that `read_dir` lists
them in. -/
inductive Node where
  | file (contents : Bytes)
  | directory (entries : List (String × Node))
  | other

def skippedNames : List String := [".git", ".dart_tool", "build", ".fcb"]

/-- The path below the root, with `/` for every backslash. -/
def relativePath (names : List String) : String :=
  String.ofList ((['/'].intercalate (names.map String.toList)).map fun char => if char = '\\' then '/' else char)

section Hashing

variable (lib : Primitives) (excludedNames : List String)

mutual

/-- What is written for one entry of the directory at `path`. -/
def hashEntries (path : List String) (name : String) : Node → List (String × String)
  | .file contents =>
      if name ∈ excludedNames then []
      else if name ∈ skippedNames then []
      else [(relativePath (path ++ [name]), lib.sha256Hex contents)]
  | .directory entries =>
      if name ∈ excludedNames then []
      else if name ∈ skippedNames then []
      else collectHashEntriesExcluding (path ++ [name]) entries
  | .other => []

def collectHashEntriesExcluding (path : List String) : List (String × Node) → List (String × String)
  | [] => []
  | (name, node) :: entries => hashEntries path name node ++ collectHashEntriesExcluding path entries

end

/-- The lines that are hashed: a path, a zero and the hash of the file. -/
def hashLine (entry : String × String) : Bytes := stringBytes entry.1 ++ 0 :: (stringBytes entry.2 ++ [0x0a])

def hashPathExcluding : Option Node → Result String
  | some (.file contents) => .ok (lib.sha256Hex contents)
  | none => .ok "missing"
  | some .other => .error (.io "Not a directory (os error 20)")
  | some (.directory listed) =>
      let entries := (collectHashEntriesExcluding lib excludedNames [] listed).insertionSort
        fun left right => left.1 ≤ right.1
      if entries.isEmpty then .ok "missing" else .ok (lib.sha256Hex (entries.flatMap hashLine))

end Hashing

/-!
## Trees
-/

structure IsFileName (name : String) : Prop where
  element : LexicalPath.IsName name.toList
  notNul : Char.ofNat 0 ∉ name.toList
  notBackslash : '\\' ∉ name.toList

/-- The entries of a directory have distinct names, and so in every directory below it. -/
inductive IsTree : List (String × Node) → Prop where
  | node {entries : List (String × Node)} (distinct : (entries.map (·.1)).Nodup)
      (named : ∀ entry ∈ entries, IsFileName entry.1)
      (below : ∀ name inner, (name, Node.directory inner) ∈ entries → IsTree inner) : IsTree entries

/-- A file of the tree: the names on the way to it, and its contents. -/
inductive HasFile : List (String × Node) → List String → Bytes → Prop where
  | here {entries : List (String × Node)} {name : String} {contents : Bytes}
      (listed : (name, Node.file contents) ∈ entries) : HasFile entries [name] contents
  | inside {entries inner : List (String × Node)} {name : String} {names : List String} {contents : Bytes}
      (listed : (name, Node.directory inner) ∈ entries) (later : HasFile inner names contents) :
      HasFile entries (name :: names) contents

/-- No name on the way to the file is excluded or skipped. -/
def Counted (excludedNames names : List String) : Prop := ∀ name ∈ names, name ∉ excludedNames ∧ name ∉ skippedNames

/-!
## What is collected
-/

section Collected

variable {lib : Primitives} {excludedNames path names : List String} {entries : List (String × Node)}
  {name : String} {contents : Bytes}

theorem collect_eq_flatMap : collectHashEntriesExcluding lib excludedNames path entries =
    entries.flatMap fun entry => hashEntries lib excludedNames path entry.1 entry.2 := by
  induction entries with
  | nil => rfl
  | cons entry entries ih =>
      rw [collectHashEntriesExcluding, ih]
      rfl

/-- Induction over the directories of a tree. -/
theorem entries_induction {motive : List (String × Node) → Prop}
    (step : ∀ entries, (∀ name inner, (name, Node.directory inner) ∈ entries → motive inner) → motive entries)
    (entries : List (String × Node)) : motive entries := by
  induction size : sizeOf entries using Nat.strongRecOn generalizing entries with
  | _ size ih =>
      apply step
      intro name inner listed
      have smaller := List.sizeOf_lt_of_mem listed
      simp only [Prod.mk.sizeOf_spec, Node.directory.sizeOf_spec] at smaller
      exact ih _ (by omega) inner rfl

theorem mem_hashEntries_file {line : String × String} :
    line ∈ hashEntries lib excludedNames path name (.file contents) ↔
      Counted excludedNames [name] ∧ line = (relativePath (path ++ [name]), lib.sha256Hex contents) := by
  unfold hashEntries Counted
  split
  case isTrue excluded => simp [excluded]
  case isFalse included =>
    split
    case isTrue skipped => simp [skipped]
    case isFalse kept => simp [included, kept]

theorem mem_hashEntries_directory {line : String × String} :
    line ∈ hashEntries lib excludedNames path name (.directory entries) ↔
      Counted excludedNames [name] ∧ line ∈ collectHashEntriesExcluding lib excludedNames (path ++ [name]) entries := by
  unfold hashEntries Counted
  split
  case isTrue excluded => simp [excluded]
  case isFalse included =>
    split
    case isTrue skipped => simp [skipped]
    case isFalse kept => simp [included, kept]

theorem counted_cons : Counted excludedNames (name :: names) ↔
    Counted excludedNames [name] ∧ Counted excludedNames names := by
  unfold Counted
  rw [List.forall_mem_cons, List.forall_mem_singleton]

/-- The lines are those of the counted files. -/
theorem mem_collect {line : String × String} :
    line ∈ collectHashEntriesExcluding lib excludedNames path entries ↔
      ∃ names contents, HasFile entries names contents ∧ Counted excludedNames names ∧
        line = (relativePath (path ++ names), lib.sha256Hex contents) := by
  induction entries using entries_induction generalizing path with
  | step entries ih =>
      rw [collect_eq_flatMap, List.mem_flatMap]
      constructor
      · intro found
        obtain ⟨⟨name, node⟩, listed, found⟩ := found
        cases node with
        | file contents =>
            obtain ⟨counted, same⟩ := mem_hashEntries_file.mp found
            exact ⟨[name], contents, .here listed, counted, same⟩
        | directory inner =>
            obtain ⟨counted, found⟩ := mem_hashEntries_directory.mp found
            obtain ⟨names, contents, inside, countedInside, same⟩ := (ih name inner listed).mp found
            rw [List.append_assoc] at same
            exact ⟨name :: names, contents, .inside listed inside, counted_cons.mpr ⟨counted, countedInside⟩, same⟩
        | other => cases found
      · intro found
        obtain ⟨names, contents, hasFile, counted, same⟩ := found
        cases hasFile with
        | here listed => exact ⟨_, listed, mem_hashEntries_file.mpr ⟨counted, same⟩⟩
        | @inside _ inner name names _ listed inside =>
            obtain ⟨countedName, countedInside⟩ := counted_cons.mp counted
            refine ⟨_, listed, mem_hashEntries_directory.mpr ⟨countedName, ?_⟩⟩
            apply (ih name inner listed).mpr
            refine ⟨names, contents, inside, countedInside, ?_⟩
            rw [same, List.append_assoc]
            rfl

end Collected

/-!
## Paths
-/

section Paths

variable {names others : List String}

theorem mem_intercalate {texts : List (List Char)} {char : Char} (member : char ∈ ['/'].intercalate texts) :
    char = '/' ∨ ∃ text ∈ texts, char ∈ text := by
  induction texts with
  | nil => cases member
  | cons text texts ih =>
      cases texts with
      | nil =>
          rw [List.intercalate_singleton] at member
          exact .inr ⟨text, List.mem_cons_self, member⟩
      | cons next texts =>
          rw [List.intercalate_cons_of_ne_nil (List.cons_ne_nil _ _), List.mem_append, List.mem_append,
            List.mem_singleton] at member
          obtain (inText | slash) | later := member
          · exact .inr ⟨text, List.mem_cons_self, inText⟩
          · exact .inl slash
          · obtain slash | ⟨found, inTexts, inFound⟩ := ih later
            · exact .inl slash
            · exact .inr ⟨found, List.mem_cons_of_mem _ inTexts, inFound⟩

/-- Without backslashes the names are joined as they are. -/
theorem relativePath_plain (named : ∀ name ∈ names, IsFileName name) :
    relativePath names = String.ofList (['/'].intercalate (names.map String.toList)) := by
  have kept : ∀ char ∈ ['/'].intercalate (names.map String.toList), (if char = '\\' then '/' else char) = id char := by
    intro char member
    apply if_neg
    intro backslash
    obtain slash | ⟨text, inTexts, inText⟩ := mem_intercalate member
    · rw [backslash] at slash
      cases slash
    · obtain ⟨name, inNames, rfl⟩ := List.mem_map.mp inTexts
      rw [backslash] at inText
      exact (named name inNames).notBackslash inText
  unfold relativePath
  rw [List.map_congr_left kept, List.map_id]

theorem relativePath_injective (named : ∀ name ∈ names, IsFileName name) (named' : ∀ name ∈ others, IsFileName name)
    (some : names ≠ []) (some' : others ≠ []) (same : relativePath names = relativePath others) : names = others := by
  rw [relativePath_plain named, relativePath_plain named', String.ofList_inj] at same
  have elements : ∀ {names : List String}, (∀ name ∈ names, IsFileName name) →
      ∀ element ∈ names.map String.toList, LexicalPath.IsName element := by
    intro names named element member
    obtain ⟨name, inNames, rfl⟩ := List.mem_map.mp member
    exact (named name inNames).element
  have texts := LexicalPath.intercalate_injective (elements named) (elements named')
    (fun none => some (List.map_eq_nil_iff.mp none)) (fun none => some' (List.map_eq_nil_iff.mp none)) same
  exact List.map_injective_iff.mpr (fun _ _ same => String.toList_inj.mp same) texts

/-- A path has no zero. -/
theorem relativePath_notNul (named : ∀ name ∈ names, IsFileName name) : 0 ∉ stringBytes (relativePath names) := by
  rw [stringBytes_eq, relativePath_plain named, String.toList_ofList]
  apply byte_absent (by decide)
  intro member
  obtain slash | ⟨text, inTexts, inText⟩ := mem_intercalate member
  · cases slash
  · obtain ⟨name, inNames, rfl⟩ := List.mem_map.mp inTexts
    exact (named name inNames).notNul inText

end Paths

/-!
## Files of a tree
-/

section Files

variable {entries inner : List (String × Node)} {names path : List String} {contents contents' : Bytes} {name : String}

theorem IsTree.named (isTree : IsTree entries) {node : Node} (listed : (name, node) ∈ entries) : IsFileName name := by
  cases isTree with
  | node distinct named below => exact named _ listed

theorem IsTree.child (isTree : IsTree entries) (listed : (name, Node.directory inner) ∈ entries) : IsTree inner := by
  cases isTree with
  | node distinct named below => exact below name inner listed

/-- A name is listed once. -/
theorem IsTree.unique (isTree : IsTree entries) {one another : Node} (listed : (name, one) ∈ entries)
    (listed' : (name, another) ∈ entries) : one = another := by
  cases isTree with
  | node distinct named below => exact (Prod.ext_iff.mp (List.inj_on_of_nodup_map distinct listed listed' rfl)).2

theorem HasFile.ne_nil (hasFile : HasFile entries names contents) : names ≠ [] := by
  cases hasFile with
  | here => exact List.cons_ne_nil _ _
  | inside => exact List.cons_ne_nil _ _

theorem HasFile.named (hasFile : HasFile entries names contents) (isTree : IsTree entries) :
    ∀ name ∈ names, IsFileName name := by
  induction hasFile with
  | here listed => exact List.forall_mem_singleton.mpr (isTree.named listed)
  | inside listed _ ih => exact List.forall_mem_cons.mpr ⟨isTree.named listed, ih (isTree.child listed)⟩

theorem HasFile.unique (hasFile : HasFile entries names contents) (isTree : IsTree entries)
    (hasFile' : HasFile entries names contents') : contents = contents' := by
  induction hasFile with
  | here listed =>
      cases hasFile' with
      | here listed' => exact Node.file.inj (isTree.unique listed listed')
      | inside listed' later => exact absurd rfl later.ne_nil
  | inside listed later ih =>
      cases hasFile' with
      | here listed' => exact absurd rfl later.ne_nil
      | inside listed' later' =>
          obtain rfl := Node.directory.inj (isTree.unique listed listed')
          exact ih (isTree.child listed) later'

variable {lib : Primitives} {excludedNames : List String} {line : String × String}

theorem path_of_mem_hashEntries (isTree : IsTree entries) {node : Node} (listed : (name, node) ∈ entries)
    (found : line ∈ hashEntries lib excludedNames path name node) :
    ∃ names, (∀ name ∈ names, IsFileName name) ∧ line.1 = relativePath (path ++ name :: names) := by
  cases node with
  | file contents =>
      obtain ⟨_, rfl⟩ := mem_hashEntries_file.mp found
      exact ⟨[], List.forall_mem_nil _, rfl⟩
  | directory inner =>
      obtain ⟨_, inside⟩ := mem_hashEntries_directory.mp found
      obtain ⟨names, contents, hasFile, _, rfl⟩ := mem_collect.mp inside
      refine ⟨names, hasFile.named (isTree.child listed), ?_⟩
      rw [List.append_assoc]
      rfl
  | other => cases found

/-- No line is collected twice. -/
theorem nodup_collect (isTree : IsTree entries) (named : ∀ name ∈ path, IsFileName name) :
    (collectHashEntriesExcluding lib excludedNames path entries).Nodup := by
  induction entries using entries_induction generalizing path with
  | step entries ih =>
      rw [collect_eq_flatMap, List.nodup_flatMap]
      constructor
      · intro entry listed
        obtain ⟨name, node⟩ := entry
        cases node with
        | file contents =>
            unfold hashEntries
            split
            · exact List.nodup_nil
            · split
              · exact List.nodup_nil
              · exact List.pairwise_singleton _ _
        | directory inner =>
            unfold hashEntries
            split
            · exact List.nodup_nil
            · split
              · exact List.nodup_nil
              · apply ih name inner listed (isTree.child listed)
                exact List.forall_mem_append.mpr ⟨named, List.forall_mem_singleton.mpr (isTree.named listed)⟩
        | other => exact List.nodup_nil
      · cases isTree with
        | node distinct fileNames below =>
            have isTree : IsTree entries := .node distinct fileNames below
            apply (List.pairwise_map.mp distinct).imp_of_mem
            intro one another listed listed' apart line found found'
            obtain ⟨names, namesOk, path⟩ := path_of_mem_hashEntries isTree listed found
            obtain ⟨names', namesOk', path'⟩ := path_of_mem_hashEntries isTree listed' found'
            have same := relativePath_injective
              (List.forall_mem_append.mpr ⟨named, List.forall_mem_cons.mpr ⟨isTree.named listed, namesOk⟩⟩)
              (List.forall_mem_append.mpr ⟨named, List.forall_mem_cons.mpr ⟨isTree.named listed', namesOk'⟩⟩)
              (by simp) (by simp) (path.symm.trans path')
            exact apart (List.cons.inj (List.append_cancel_left same)).1

end Files

/-!
## Lines
-/

section Lines

variable {lib : Primitives}

theorem sha256Hex_notNewline (bytes : Bytes) : 0x0a ∉ stringBytes (lib.sha256Hex bytes) := by
  rw [stringBytes_eq]
  apply byte_absent (by decide)
  intro member
  have dense := hexBytes_dense (lib.sha256 bytes) _ member
  cases dense

/-- The digits of a hash have no `m`. -/
theorem sha256Hex_ne_missing (bytes : Bytes) : lib.sha256Hex bytes ≠ "missing" := by
  intro same
  have chars : (lib.sha256 bytes).flatMap (fun value => (hexByte value).toList) = "missing".toList := by
    rw [← hexBytes_toList]
    exact congrArg String.toList same
  cases digest : lib.sha256 bytes with
  | nil =>
      rw [digest] at chars
      cases chars
  | cons value rest =>
      obtain ⟨high, low, digits, read, _⟩ := hexByte_digits value
      rw [digest, List.flatMap_cons, digits] at chars
      have first : high = 'm' := (List.cons.inj chars).1
      rw [first] at read
      have small := value.toNat_lt
      have value : hexDigit 'm' = 22 := rfl
      omega

theorem sha256Hex_injective (collisionFree : Function.Injective lib.sha256) {one other : Bytes}
    (same : lib.sha256Hex one = lib.sha256Hex other) : one = other :=
  collisionFree (hexBytes_injective same)

/-- Lines whose paths have no zero, and whose hashes end before the newline. -/
def PlainLines (lines : List (String × String)) : Prop :=
  ∀ line ∈ lines, 0 ∉ stringBytes line.1 ∧ 0x0a ∉ stringBytes line.2

theorem hashLines_injective {lines others : List (String × String)} (plain : PlainLines lines)
    (plain' : PlainLines others) (same : lines.flatMap hashLine = others.flatMap hashLine) : lines = others := by
  induction lines generalizing others with
  | nil =>
      cases others with
      | nil => rfl
      | cons other others => simp [hashLine] at same
  | cons line lines ih =>
      cases others with
      | nil => simp [hashLine] at same
      | cons other others =>
          obtain ⟨⟨path, hash⟩, plain⟩ := List.forall_mem_cons.mp plain
          obtain ⟨⟨path', hash'⟩, plain'⟩ := List.forall_mem_cons.mp plain'
          simp only [List.flatMap_cons, hashLine, List.append_assoc, List.cons_append, List.nil_append] at same
          obtain ⟨paths, same⟩ := cut_first path path' same
          obtain ⟨hashes, same⟩ := cut_first hash hash' same
          rw [ih plain plain' same, Prod.ext (stringBytes_injective paths) (stringBytes_injective hashes)]

end Lines

/-!
## Equal hashes
-/

section Equal

variable {lib : Primitives} {excludedNames : List String} {left right : List (String × Node)}

/-- The lines as they are hashed. -/
def sortedLines (lib : Primitives) (excludedNames : List String) (entries : List (String × Node)) :
    List (String × String) :=
  (collectHashEntriesExcluding lib excludedNames [] entries).insertionSort fun left right => left.1 ≤ right.1

theorem plain_sortedLines (lib : Primitives) (excludedNames : List String) (isTree : IsTree left) :
    PlainLines (sortedLines lib excludedNames left) := by
  intro line member
  obtain ⟨names, contents, hasFile, _, rfl⟩ := mem_collect.mp ((List.mem_insertionSort _).mp member)
  exact ⟨relativePath_notNul (hasFile.named isTree), sha256Hex_notNewline contents⟩

/-- The hash tells the lines. -/
theorem hashPathExcluding_eq_iff (collisionFree : Function.Injective lib.sha256) (isLeft : IsTree left)
    (isRight : IsTree right) :
    hashPathExcluding lib excludedNames (some (.directory left)) =
        hashPathExcluding lib excludedNames (some (.directory right)) ↔
      sortedLines lib excludedNames left = sortedLines lib excludedNames right := by
  have hashed : ∀ entries, hashPathExcluding lib excludedNames (some (.directory entries)) =
      if (sortedLines lib excludedNames entries).isEmpty then .ok "missing"
      else .ok (lib.sha256Hex ((sortedLines lib excludedNames entries).flatMap hashLine)) := fun _ => rfl
  have plainLeft := plain_sortedLines lib excludedNames isLeft
  have plainRight := plain_sortedLines lib excludedNames isRight
  rw [hashed, hashed]
  constructor
  · intro same
    cases first : sortedLines lib excludedNames left with
    | nil =>
        cases second : sortedLines lib excludedNames right with
        | nil => rfl
        | cons line lines =>
            rw [first, second] at same
            exact absurd (Except.ok.inj same).symm (sha256Hex_ne_missing _)
    | cons line lines =>
        cases second : sortedLines lib excludedNames right with
        | nil =>
            rw [first, second] at same
            exact absurd (Except.ok.inj same) (sha256Hex_ne_missing _)
        | cons line' lines' =>
            rw [first] at plainLeft
            rw [second] at plainRight
            rw [first, second] at same
            exact hashLines_injective plainLeft plainRight (sha256Hex_injective collisionFree (Except.ok.inj same))
  · intro same
    rw [same]

/-- Lines with one path are one line. -/
theorem line_unique (isTree : IsTree left) {one other : String × String}
    (found : one ∈ collectHashEntriesExcluding lib excludedNames [] left)
    (found' : other ∈ collectHashEntriesExcluding lib excludedNames [] left) (same : one.1 = other.1) :
    one = other := by
  obtain ⟨names, contents, hasFile, _, rfl⟩ := mem_collect.mp found
  obtain ⟨names', contents', hasFile', _, rfl⟩ := mem_collect.mp found'
  have paths : names = names' := relativePath_injective (hasFile.named isTree) (hasFile'.named isTree)
    hasFile.ne_nil hasFile'.ne_nil same
  subst paths
  rw [hasFile.unique isTree hasFile']

theorem sortedLines_eq_iff (isLeft : IsTree left) (isRight : IsTree right) :
    sortedLines lib excludedNames left = sortedLines lib excludedNames right ↔
      ∀ line, line ∈ collectHashEntriesExcluding lib excludedNames [] left ↔
        line ∈ collectHashEntriesExcluding lib excludedNames [] right := by
  constructor
  · intro same line
    have member := congrArg (line ∈ ·) same
    simp only [sortedLines, List.mem_insertionSort, eq_iff_iff] at member
    exact member
  · intro same
    apply insertionSort_eq_of_perm
    case total => exact fun one other => String.le_total one.1 other.1
    case trans => exact fun one other third => String.le_trans
    case same =>
      exact (List.perm_ext_iff_of_nodup (nodup_collect isLeft (List.forall_mem_nil _))
        (nodup_collect isRight (List.forall_mem_nil _))).mpr same
    case apart =>
      intro one found other found' first second
      exact line_unique isLeft found found' (String.le_antisymm first second)

/-- The lines of a tree tell its counted files. -/
theorem collected_iff (collisionFree : Function.Injective lib.sha256) (isLeft : IsTree left)
    (isRight : IsTree right) :
    (∀ line, line ∈ collectHashEntriesExcluding lib excludedNames [] left →
        line ∈ collectHashEntriesExcluding lib excludedNames [] right) ↔
      ∀ names contents, Counted excludedNames names → HasFile left names contents → HasFile right names contents := by
  constructor
  · intro collected names contents counted hasFile
    obtain ⟨names', contents', hasFile', _, same⟩ :=
      mem_collect.mp (collected _ (mem_collect.mpr ⟨names, contents, hasFile, counted, rfl⟩))
    obtain ⟨paths, hashes⟩ := Prod.ext_iff.mp same
    obtain rfl := relativePath_injective (hasFile.named isLeft) (hasFile'.named isRight) hasFile.ne_nil
      hasFile'.ne_nil paths
    obtain rfl := sha256Hex_injective collisionFree hashes
    exact hasFile'
  · intro files line found
    obtain ⟨names, contents, hasFile, counted, same⟩ := mem_collect.mp found
    exact mem_collect.mpr ⟨names, contents, files names contents counted hasFile, counted, same⟩

end Equal

/-- Two trees have one hash if and only if they have the same files with the same contents, those on whose way a name is
excluded or skipped apart. -/
theorem tree_hash_eq_iff (lib : Primitives) (collisionFree : Function.Injective lib.sha256)
    (excludedNames : List String) {left right : List (String × Node)} (isLeft : IsTree left) (isRight : IsTree right) :
    hashPathExcluding lib excludedNames (some (.directory left)) =
        hashPathExcluding lib excludedNames (some (.directory right)) ↔
      ∀ names contents, Counted excludedNames names →
        (HasFile left names contents ↔ HasFile right names contents) := by
  rw [hashPathExcluding_eq_iff collisionFree isLeft isRight, sortedLines_eq_iff isLeft isRight]
  constructor
  · intro same names contents counted
    constructor
    · exact (collected_iff collisionFree isLeft isRight).mp (fun line => (same line).mp) names contents counted
    · exact (collected_iff collisionFree isRight isLeft).mp (fun line => (same line).mpr) names contents counted
  · intro same line
    constructor
    · exact (collected_iff collisionFree isLeft isRight).mpr
        (fun names contents counted => (same names contents counted).mp) line
    · exact (collected_iff collisionFree isRight isLeft).mpr
        (fun names contents counted => (same names contents counted).mpr) line

section Builds

/-- A directory with the Flutter library and builds of the app's own. -/
structure IsBuild (inner : List (String × Node)) : Prop where
  distinct : (inner.map (·.1)).Nodup
  flutter : ("libflutter.so", Node.file []) ∈ inner
  others : ∀ entry ∈ inner, entry = ("libflutter.so", .file []) ∨ ∃ contents, entry = ("libapp.so", .file contents)

def mergedLibs (inner : List (String × Node)) : List (String × Node) := [("arm64-v8a", .directory inner)]

variable {inner : List (String × Node)}

theorem IsBuild.isTree (isBuild : IsBuild inner) : IsTree (mergedLibs inner) := by
  have flutter : IsFileName "libflutter.so" := ⟨⟨by decide, by decide, by decide, by decide⟩, by decide, by decide⟩
  have app : IsFileName "libapp.so" := ⟨⟨by decide, by decide, by decide, by decide⟩, by decide, by decide⟩
  have arch : IsFileName "arm64-v8a" := ⟨⟨by decide, by decide, by decide, by decide⟩, by decide, by decide⟩
  have inside : IsTree inner := by
    refine .node isBuild.distinct ?_ ?_
    · intro entry member
      obtain rfl | ⟨contents, rfl⟩ := isBuild.others entry member
      · exact flutter
      · exact app
    · intro name below member
      obtain same | ⟨contents, same⟩ := isBuild.others _ member
      · cases same
      · cases same
  refine .node (List.pairwise_singleton _ _) (List.forall_mem_singleton.mpr arch) ?_
  intro name below member
  cases List.mem_singleton.mp member
  exact inside

theorem IsBuild.hasFile_iff (isBuild : IsBuild inner) {names : List String} {contents : Bytes}
    (counted : Counted ["libapp.so"] names) :
    HasFile (mergedLibs inner) names contents ↔ names = ["arm64-v8a", "libflutter.so"] ∧ contents = [] := by
  constructor
  · intro hasFile
    cases hasFile with
    | here listed => cases List.mem_singleton.mp listed
    | inside listed later =>
        cases List.mem_singleton.mp listed
        cases later with
        | here listed =>
            obtain same | ⟨_, same⟩ := isBuild.others _ listed
            · cases same
              exact ⟨rfl, rfl⟩
            · cases same
              exact absurd List.mem_cons_self (counted "libapp.so" (by simp)).1
        | inside listed later =>
            obtain same | ⟨_, same⟩ := isBuild.others _ listed
            · cases same
            · cases same
  · intro same
    obtain ⟨rfl, rfl⟩ := same
    exact .inside List.mem_cons_self (.here isBuild.flutter)

/-- The SHA-256 of no bytes, and of the line for them in a build. -/
def buildDigests : List (Bytes × Bytes) :=
  [([], [227, 176, 196, 66, 152, 252, 28, 20, 154, 251, 244, 200, 153, 111, 185, 36, 39, 174, 65, 228, 100, 155,
      147, 76, 164, 149, 153, 27, 120, 82, 184, 85]),
    (stringBytes ("arm64-v8a/libflutter.so\x00" ++
        "e3b0c44298fc1c149afbf4c8996fb92427ae41e4649b934ca495991b7852b855\n"),
      [168, 242, 188, 18, 170, 150, 20, 161, 23, 154, 39, 218, 176, 230, 168, 48, 144, 49, 7, 80, 116, 175, 104, 211,
        82, 170, 25, 108, 110, 173, 116, 126])]

def buildLib : Primitives := { Primitives.refusing with sha256 := knownDigests buildDigests }

/-- Two builds that differ in the excluded library and in the order of their entries. -/
theorem builds_same_hash :
    hashPathExcluding buildLib ["libapp.so"]
        (some (.directory (mergedLibs [("libflutter.so", .file []), ("libapp.so", .file [1])]))) =
      hashPathExcluding buildLib ["libapp.so"]
        (some (.directory (mergedLibs [("libapp.so", .file [2]), ("libflutter.so", .file [])]))) := by
  have collisionFree : Function.Injective buildLib.sha256 := knownDigests_injective (by decide) (by decide)
  have one : IsBuild [("libflutter.so", .file []), ("libapp.so", .file [1])] := ⟨by decide, by simp, by simp⟩
  have another : IsBuild [("libapp.so", .file [2]), ("libflutter.so", .file [])] := ⟨by decide, by simp, by simp⟩
  apply (tree_hash_eq_iff buildLib collisionFree ["libapp.so"] one.isTree another.isTree).mpr
  intro names contents counted
  rw [one.hasFile_iff counted, another.hasFile_iff counted]

end Builds

/-- No name on the way is excluded, and no directory on the way is skipped. -/
def Outside (excludedNames names : List String) : Prop :=
  (∀ name ∈ names, name ∉ excludedNames) ∧ ∀ name ∈ names.dropLast, name ∉ skippedNames

theorem isTree_singleton {name : String} (named : IsFileName name) (contents : Bytes) :
    IsTree [(name, .file contents)] := by
  refine .node (List.pairwise_singleton _ _) (List.forall_mem_singleton.mpr named) ?_
  intro name below member
  cases List.mem_singleton.mp member

/-- A plain file is skipped for its name, too. -/
theorem file_named_build_skipped :
    ¬ ∀ (lib : Primitives) (excludedNames : List String) (left right : List (String × Node)),
      Function.Injective lib.sha256 → IsTree left → IsTree right →
        (hashPathExcluding lib excludedNames (some (.directory left)) =
            hashPathExcluding lib excludedNames (some (.directory right)) ↔
          ∀ names contents, Outside excludedNames names →
            (HasFile left names contents ↔ HasFile right names contents)) := by
  intro claimed
  have named : IsFileName "build" := ⟨⟨by decide, by decide, by decide, by decide⟩, by decide, by decide⟩
  have outside : Outside [] ["build"] := ⟨by simp, by simp⟩
  have collisionFree : Function.Injective buildLib.sha256 := knownDigests_injective (by decide) (by decide)
  have files := (claimed buildLib [] [("build", .file [1])] [("build", .file [2])] collisionFree
    (isTree_singleton named [1]) (isTree_singleton named [2])).mp rfl ["build"] [1] outside
  have other := files.mp (.here List.mem_cons_self)
  cases other with
  | here listed => cases List.mem_singleton.mp listed
  | inside listed later => exact later.ne_nil rfl

end CodePush.Cli
