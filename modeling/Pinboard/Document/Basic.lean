import Pinboard.Json.Display

/-!
# Documents

A document is a record of named values, known by the value under `_id`. A collection of documents is
a list in the order of their insertion; the operations here are those of a document database on one
collection.
-/
namespace Pinboard

abbrev Document := Fields Json

namespace Document

def idField : String := "_id"

/-- Whether a document is known by a text. -/
def isKnownAs (id : String) (d : Document) : Bool :=
  match Fields.get? idField d with
  | some (.str s) => s == id
  | _ => false

/-- The number under a field, by which documents are put in order; one without it is below zero. -/
def rank (field : String) (d : Document) : Number.Numeric :=
  ((Fields.get? field d).bind Json.numeric?).getD (.whole (-1))

/-- Whether a document comes before another in the order of a field. -/
def isBelow (field : String) (d e : Document) : Bool := (rank field d).below (rank field e)

/-- Documents in ascending order of a field, equal ones in their order. -/
def ascending (field : String) (docs : List Document) : List Document :=
  docs.mergeSort fun a b => !isBelow field b a

/-- The first of the documents that are highest in a field. -/
def highest? (field : String) : List Document → Option Document
  | [] => none
  | d :: rest =>
    match highest? field rest with
    | none => some d
    | some e => if isBelow field d e then some e else some d

/-- The first document under an id. -/
def find? (id : String) (docs : List Document) : Option Document := docs.find? (isKnownAs id)

def id (d : Document) : Json := (Fields.get? idField d).getD .null

/-- Whether a document of a collection has the id of another one. -/
def clashes (d : Document) (docs : List Document) : Bool :=
  docs.any fun e => e.id.same d.id

/-- Insert documents in turn, up to the first whose id is there already; that id is given too. -/
def insertAll : List Document → List Document → List Document × Option String
  | [], docs => (docs, none)
  | d :: rest, docs =>
    if clashes d docs then (docs, some d.id.display) else insertAll rest (docs ++ [d])

/-- Change the first document under an id. -/
def changeFirst (id : String) (f : Document → Document) : List Document → List Document
  | [] => []
  | d :: rest => if isKnownAs id d then f d :: rest else d :: changeFirst id f rest

/-- Put values into the fields of the document under an id, if there is one. -/
def setFields (id : String) (values : Fields Json) (docs : List Document) : List Document :=
  changeFirst id (fun d => Fields.merge d values) docs

/-- Put a document in the place of the one under an id, at the end if there is none. -/
def replace (id : String) (d : Document) (docs : List Document) : List Document :=
  if docs.any (isKnownAs id) then changeFirst id (fun _ => d) docs else docs ++ [d]

/-- Remove all documents under some ids. -/
def removeAll (ids : List String) (docs : List Document) : List Document :=
  docs.filter fun d => !(ids.any fun id => isKnownAs id d)

/-- Remove the first document under an id. -/
def removeFirst (id : String) (docs : List Document) : List Document :=
  docs.eraseP (isKnownAs id)

end Document
end Pinboard
