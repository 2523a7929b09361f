import Pinboard.Action
import Pinboard.Document.Basic

/-!
# Document servers

A server keeps databases of documents. A connection to it is known by a number.
-/
namespace Pinboard

/-- The calls to a server; those on documents name a collection first. -/
structure Server (σ : Type) where
  /-- Open a connection to an address. -/
  connect : String → Action σ Nat
  /-- Choose the database of a connection. -/
  selectDatabase : Nat → String → Action σ Unit
  /-- Ask whether the server answers. -/
  ping : Nat → Action σ Unit
  close : Nat → Action σ Unit
  /-- Make a collection unless it is there. -/
  ensure : String → Action σ Unit
  /-- Have the server keep an index of a field. -/
  createIndex : String → String → Action σ Unit
  /-- All documents in ascending order of a field. -/
  ascending : String → String → Action σ (List Document)
  /-- The document that is highest in a field. -/
  highest? : String → String → Action σ (Option Document)
  /-- The document under an id. -/
  find? : String → String → Action σ (Option Document)
  insertAll : String → List Document → Action σ Unit
  /-- Put values into the fields of the document under an id. -/
  setFields : String → String → Fields Json → Action σ Unit
  /-- Remove all documents under some ids. -/
  removeAll : String → List String → Action σ Unit
  /-- Put a document in the place of the one under an id, or add it. -/
  replace : String → String → Document → Action σ Unit
  /-- Remove the document under an id. -/
  removeFirst : String → String → Action σ Unit

end Pinboard
