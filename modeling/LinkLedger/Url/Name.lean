import LinkLedger.Text.Normal
import LinkLedger.Url.NameTable
import LinkLedger.Url.Punycode

/-!
# Names of hosts

A name of a host is brought to its form in ASCII: characters are mapped and composed, every label is
checked, and labels with other characters are encoded.
-/

namespace LinkLedger
namespace Url

open Text

/-! ## Mapping -/

/-- What a character of a name becomes, if names may have it. -/
def mapCharacter (c : Char) : Option (List Char) :=
  if c.toNat < 128 then some [c.toLower]
  else if refusedCharacters.has c then none
  else if droppedCharacters.has c then some []
  else some ((mappedCharacters.image? c).getD [c])

/-- Maps the characters of a name, one after the other. -/
def mapCharacters : List Char → Option (List Char)
  | [] => some []
  | c :: cs => do
      let image ← mapCharacter c
      let rest ← mapCharacters cs
      some (image ++ rest)

/-- A name with its characters mapped and composed. -/
def preparedName (cs : List Char) : Option (List Char) :=
  (mapCharacters cs).map composed

/-! ## Checks -/

/-- The ASCII characters that no name may have. -/
def isForbidden (c : Char) : Bool :=
  c.toNat ≤ 32 || c.toNat = 127 || "%#/:<>?@[\\]^|".toList.contains c

/-- Whether a combining character that joins two letters stands in front. -/
def isVirama (c : Char) : Bool := combiningClass c = 9

/-- Whether text, seen from a place on, starts with a character of a joining type, behind characters
that are looked through. -/
def joins (types : List Nat) (cs : List Char) : Bool :=
  match cs.dropWhile fun c => joiningTypes.value? c = some 4 with
  | c :: _ =>
      match joiningTypes.value? c with
      | some k => types.contains k
      | none => false
  | [] => false

/-- Whether every joiner of a label stands where it shows; `behind` is the text in front of the
current place, last character first. -/
def joinersFit (behind : List Char) : List Char → Bool
  | [] => true
  | c :: cs =>
      let n := c.toNat
      let fits : Bool :=
        if n = 0x200C then
          behind.head?.any isVirama || (joins [1, 3] behind && joins [2, 3] cs)
        else if n = 0x200D then behind.head?.any isVirama
        else true
      fits && joinersFit (c :: behind) cs

/-- The direction of a character; 0 for letters written from left to right. -/
def direction (c : Char) : Nat :=
  if c.isAlpha then 0 else (directions.value? c).getD 0

/-- Whether a character belongs to text written from right to left. -/
def isRightToLeft (c : Char) : Bool :=
  let d := direction c
  d = 1 || d = 2 || d = 3

/-- Whether a label keeps to one direction of writing. -/
def directionFits (label : List Char) : Bool :=
  match label with
  | [] => true
  | c :: _ =>
      let all := label.map direction
      let last := (all.reverse.dropWhile (· == 10)).head?.getD 10
      let first := direction c
      if first = 1 ∨ first = 2 then
        all.all (fun d => 1 ≤ d && d ≤ 10) && [1, 2, 3, 4].contains last &&
          !(all.contains 3 && all.contains 4)
      else if first = 0 then
        all.all (fun d => d = 0 || (4 ≤ d && d ≤ 10)) && (last = 0 || last = 4)
      else false

/-- Whether the decoded characters of a label can stand in a name as they are. -/
def isSettled (label : List Char) : Bool :=
  label.all (fun c => mapCharacter c == some [c]) && composed label == label

/-- Whether a label, in characters, may be part of a name. -/
def labelFits (label : List Char) : Bool :=
  (label.head?.all fun c => !markCharacters.has c) && joinersFit [] label &&
    label.all fun c => !isForbidden c

/-! ## Labels -/

/-- The text in front of an encoded label. -/
def encodedStart : List Char := "xn--".toList

/-- The longest label that is encoded. -/
def encodeLimit : Nat := 1000

/-- The longest label that is decoded. -/
def decodeLimit : Nat := 2000

/-- A label in characters, and its form in ASCII. -/
structure Label where
  characters : List Char
  ascii : List Char

/-- A label of a prepared name. -/
def Label.ofPrepared? (cs : List Char) : Option Label :=
  match encodedStart.isPrefixOf? cs with
  | some code =>
      if cs.all (fun c => c.toNat < 128) ∧ code.length ≤ decodeLimit then do
        let label ← decodeLabel? code
        if label.any (fun c => 128 ≤ c.toNat) && isSettled label && labelFits label then
          some ⟨label, cs⟩
        else none
      else none
  | none =>
      if labelFits cs then
        if cs.all fun c => c.toNat < 128 then some ⟨cs, cs⟩
        else if cs.length ≤ encodeLimit then some ⟨cs, encodedStart ++ encodeLabel cs⟩
        else none
      else none

/-- The form of a name in ASCII. -/
def asciiName? (cs : List Char) : Option (List Char) := do
  let prepared ← preparedName cs
  let labels ← (prepared.splitOn '.').mapM Label.ofPrepared?
  let mixed := labels.any fun l => l.characters.any isRightToLeft
  if mixed && !labels.all (fun l => directionFits l.characters) then none
  else some (['.'].intercalate (labels.map Label.ascii))

end Url
end LinkLedger
