/-!
Octet strings: file names, addresses and whatever else the operating system does not promise to be
text. Decoding splits them into characters and maximal ill-formed parts; the shown form writes one
replacement character for each such part, and equals the text itself when there is none.
-/
set_option autoImplicit false

namespace HostEngine

abbrev Octets := List UInt8

namespace Octets

def ofString (text : String) : Octets :=
  text.toList.flatMap String.utf8EncodeChar

/-- A stretch of decoded octets: one character, or a part that no character starts with. -/
inductive Piece where
  | char (c : Char)
  | broken (octets : Octets)
  deriving DecidableEq, Repr

def firstChar? (octets : Octets) : Option Char :=
  (octets.take 4).toByteArray.utf8DecodeChar? 0

def followsLead (lead octet : UInt8) : Bool :=
  let low : UInt8 := if lead = 0xE0 then 0xA0 else if lead = 0xF0 then 0x90 else 0x80
  let high : UInt8 := if lead = 0xED then 0x9F else if lead = 0xF4 then 0x8F else 0xBF
  low ≤ octet && octet ≤ high

/-- How many octets beyond the first the ill-formed part extends over: as many as still begin some
character, so that the next part starts where no character can go on. -/
def brokenTail (lead : UInt8) (rest : Octets) : Nat :=
  if 0xE0 ≤ lead && lead ≤ 0xF4 then
    match rest with
    | [] => 0
    | second :: later =>
      if followsLead lead second then
        match later with
        | [] => 1
        | third :: _ => if 0xF0 ≤ lead && 0x80 ≤ third && third ≤ 0xBF then 2 else 1
      else 0
  else 0

def piecesAfter : Nat → Octets → List Piece
  | _, [] => []
  | skip + 1, _ :: rest => piecesAfter skip rest
  | 0, octet :: rest =>
    match firstChar? (octet :: rest) with
    | some c => .char c :: piecesAfter (c.utf8Size - 1) rest
    | none =>
      .broken (octet :: rest.take (brokenTail octet rest)) ::
        piecesAfter (brokenTail octet rest) rest

/-- Characters and maximal ill-formed parts, in order. -/
def pieces (octets : Octets) : List Piece := piecesAfter 0 octets

def charsOf? : List Piece → Option (List Char)
  | [] => some []
  | .char c :: rest => (charsOf? rest).map (c :: ·)
  | .broken _ :: _ => none

/-- The text the octets encode; none if any part of them is ill-formed. -/
def text? (octets : Octets) : Option String :=
  (charsOf? octets.pieces).map String.ofList

/-- One character per piece: the replacement character stands for an ill-formed part. -/
def Piece.shown : Piece → Char
  | .char c => c
  | .broken _ => '\uFFFD'

def shown (octets : Octets) : String :=
  String.ofList (octets.pieces.map Piece.shown)

/-- Whether a NUL octet occurs, which no name handed to the operating system can hold. -/
def hasNul (octets : Octets) : Bool := octets.contains 0

def untilNul (octets : Octets) : Octets := octets.takeWhile (· ≠ 0)

end Octets

end HostEngine
