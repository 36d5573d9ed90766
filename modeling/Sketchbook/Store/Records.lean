import Sketchbook.Store.Error
/-!
Stores of records: texts under keys. An operation that changes a store gives the new store or fails
and leaves the store as it was.
-/
namespace Sketchbook

/-- A type of stores of records. -/
class Records (σ : Type) where
  /-- The text under a key, if there is one. -/
  get : σ → String → Except StoreError (Option String)
  /-- Puts a text under a key, in place of the one that was there. -/
  put : σ → String → String → Except StoreError σ
  /-- Removes the text under a key, if there is one. -/
  delete : σ → String → Except StoreError σ
  /-- The keys that have a text. -/
  keys : σ → Except StoreError (List String)
  /-- Whether a key has a text. -/
  contains : σ → String → Except StoreError Bool

end Sketchbook
