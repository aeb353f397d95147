import CodePush.Core.Basic
import CodePush.Foundation.LexicalPath

/-!
# Storage of payloads in a directory

The keys and paths of `LocalFSStorage` in `server/storage.go`. Go's texts are bytes, and a
key of the payload endpoint is any of them.
-/

set_option autoImplicit false

namespace CodePush.Server

open CodePush.Core CodePush.Foundation

instance : PathSyntax UInt8 where
  slash := 0x2f
  dot := 0x2e
  apart := by decide

/-- The checks of a key, in their order. -/
def validateObjectKey (key : Bytes) : Except String Unit :=
  let clean := LexicalPath.clean key
  if clean = stringBytes "." ∨ LexicalPath.isAbs clean ∨ clean ≠ key ∨ clean = stringBytes ".." ∨
      stringBytes "../" <+: clean then
    .error "invalid object key"
  else .ok ()

structure LocalFSStorage where
  root : Bytes
  deriving Repr, DecidableEq

def LocalFSStorage.objectPath (storage : LocalFSStorage) (key : Bytes) : Except String Bytes := do
  validateObjectKey key
  return LexicalPath.join storage.root key

theorem stringBytes_dot : stringBytes "." = [PathSyntax.dot] := by decide

theorem stringBytes_dots : stringBytes ".." = [PathSyntax.dot, PathSyntax.dot] := by decide

theorem stringBytes_above :
    stringBytes "../" = [PathSyntax.dot, PathSyntax.dot, PathSyntax.slash] := by decide

/-- An accepted key is made of names. -/
theorem validateObjectKey_names {key : Bytes} (accepted : validateObjectKey key = .ok ()) :
    ∃ names, names ≠ [] ∧ (∀ name ∈ names, LexicalPath.IsName name) ∧
      key = [PathSyntax.slash].intercalate names := by
  unfold validateObjectKey at accepted
  dsimp only at accepted
  split at accepted
  case isTrue => cases accepted
  case isFalse proper =>
    simp only [not_or, stringBytes_dot, stringBytes_dots, stringBytes_above, ne_eq, not_not,
      Bool.not_eq_true] at proper
    obtain ⟨inside, relative, same, notParent, notAbove⟩ := proper
    rw [same] at inside relative notParent notAbove
    exact LexicalPath.names_of_clean same relative inside notParent notAbove

theorem LocalFSStorage.objectPath_eq_ok {storage : LocalFSStorage} {key path : Bytes}
    (found : storage.objectPath key = .ok path) :
    validateObjectKey key = .ok () ∧ path = LexicalPath.join storage.root key := by
  unfold LocalFSStorage.objectPath at found
  cases accepted : validateObjectKey key with
  | error message =>
      rw [accepted] at found
      cases found
  | ok =>
      rw [accepted] at found
      cases found
      exact ⟨rfl, rfl⟩

/-- The paths of objects are below the root, in the text and in the tree of directories, and
no two keys share one. -/
theorem objectPath_confined (storage : LocalFSStorage) (named : storage.root ≠ []) :
    (∀ key path, storage.objectPath key = .ok path →
      LexicalPath.Below path (LexicalPath.clean storage.root) ∧
      ∀ directory, ∃ names, names ≠ [] ∧ LexicalPath.locate directory path =
        LexicalPath.locate directory (LexicalPath.clean storage.root) ++ names) ∧
    ∀ key key' path, storage.objectPath key = .ok path → storage.objectPath key' = .ok path → key = key' := by
  constructor
  · intro key path found
    obtain ⟨accepted, rfl⟩ := storage.objectPath_eq_ok found
    obtain ⟨names, someNames, areNames, rfl⟩ := validateObjectKey_names accepted
    have below : LexicalPath.Below (LexicalPath.join storage.root ([PathSyntax.slash].intercalate names))
        (LexicalPath.clean storage.root) :=
      ⟨names, someNames, areNames, LexicalPath.join_names named someNames areNames⟩
    exact ⟨below, below.locate (LexicalPath.clean_ne_nil _)⟩
  · intro key key' path found found'
    obtain ⟨accepted, rfl⟩ := storage.objectPath_eq_ok found
    obtain ⟨accepted', same⟩ := storage.objectPath_eq_ok found'
    obtain ⟨names, someNames, areNames, rfl⟩ := validateObjectKey_names accepted
    obtain ⟨names', someNames', areNames', rfl⟩ := validateObjectKey_names accepted'
    rw [LexicalPath.join_names named someNames areNames,
      LexicalPath.join_names named someNames' areNames'] at same
    rw [LexicalPath.descend_injective someNames someNames' areNames areNames' same]

/-- Two payloads under a root that is not in normal form. -/
theorem data_root_confined :
    let storage : LocalFSStorage := { root := stringBytes "./data//" }
    storage.objectPath (stringBytes "a/b") = .ok (stringBytes "data/a/b") ∧
      LexicalPath.Below (stringBytes "data/a/b") (stringBytes "data") := by
  intro storage
  have found : storage.objectPath (stringBytes "a/b") = .ok (stringBytes "data/a/b") := by decide
  have root : LexicalPath.clean storage.root = stringBytes "data" := by decide
  refine ⟨found, ?_⟩
  rw [← root]
  exact ((objectPath_confined storage (by decide)).1 _ _ found).1

end CodePush.Server
