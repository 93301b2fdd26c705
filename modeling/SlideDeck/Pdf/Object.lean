import SlideDeck.Pdf.Operator

/-! # PDF objects

A file is made of numbered objects that refer to each other. An object is written as
text; a stream is a dictionary with bytes behind it.
-/

namespace SlideDeck.Pdf

/-- An object that stands inside of another or on its own. -/
inductive Object
  | name (text : String)
  | integer (n : Nat)
  | real (x : Float)
  | string (bytes : List UInt8)
  | reference (number : Nat)
  | array (items : List Object)
  | dictionary (members : List (String × Object))

mutual

/-- The bytes of an object. -/
def Object.bytes : Object → List UInt8
  | .name text => asciiBytes ("/" ++ text)
  | .integer n => asciiBytes (toString n)
  | .real x => asciiBytes (Binary64.toSingleText x)
  | .string bytes => literal bytes
  | .reference number => asciiBytes (toString number ++ " 0 R")
  | .array items => asciiBytes "[" ++ itemBytes items ++ asciiBytes "]"
  | .dictionary members => asciiBytes "<<" ++ memberBytes members ++ asciiBytes ">>"

/-- The bytes of the items of an array. -/
def itemBytes : List Object → List UInt8
  | [] => []
  | [o] => o.bytes
  | o :: rest => o.bytes ++ asciiBytes " " ++ itemBytes rest

/-- The bytes of the members of a dictionary. -/
def memberBytes : List (String × Object) → List UInt8
  | [] => []
  | (name, o) :: rest => asciiBytes ("/" ++ name ++ " ") ++ o.bytes ++ memberBytes rest

end

/-- What stands at a number of a file. -/
inductive Body
  | object (o : Object)
  | stream (members : List (String × Object)) (data : List UInt8)

/-- The bytes of a numbered object. -/
def Body.bytes (number : Nat) (b : Body) : List UInt8 :=
  let content :=
    match b with
    | .object o => o.bytes
    | .stream members data =>
      (Object.dictionary (members ++ [("Length", .integer data.length)])).bytes ++
        asciiBytes "\nstream\n" ++ data ++ asciiBytes "\nendstream"
  asciiBytes (toString number ++ " 0 obj\n") ++ content ++ asciiBytes "\nendobj\n"

/-- The decimal digits of a number, filled up with zeros. -/
def paddedNumber (width n : Nat) : String :=
  let digits := toString n
  String.ofList (List.replicate (width - digits.length) '0') ++ digits

/-- The line of the cross-reference table for an object at a place. -/
def placeLine (place : Nat) : List UInt8 := asciiBytes (paddedNumber 10 place ++ " 00000 n \n")

/-- Writes numbered objects behind a part that is written already, and gives the places
at which they start. -/
def writeBodies (number place : Nat) : List Body → List (List UInt8) × List Nat
  | [] => ([], [])
  | b :: rest =>
    let bytes := b.bytes number
    let (parts, places) := writeBodies (number + 1) (place + bytes.length) rest
    (bytes :: parts, place :: places)

/-- The bytes of a file of objects, numbered from one, with the numbers of its catalog
and of its information. -/
def fileBytes (version : String) (bodies : List Body) (root info : Nat) : List UInt8 :=
  let head := asciiBytes ("%PDF-" ++ version ++ "\n%") ++ [0xE2, 0xE3, 0xCF, 0xD3, 0x0A]
  let (parts, places) := writeBodies 1 head.length bodies
  let content := head ++ parts.flatten
  let trailer := Object.dictionary [
    ("Size", .integer (bodies.length + 1)), ("Root", .reference root),
    ("Info", .reference info)]
  content ++
    asciiBytes ("xref\n0 " ++ toString (bodies.length + 1) ++ "\n0000000000 65535 f \n") ++
    places.flatMap placeLine ++ asciiBytes "trailer\n" ++ trailer.bytes ++
    asciiBytes ("\nstartxref\n" ++ toString content.length ++ "\n%%EOF\n")

end SlideDeck.Pdf
