import Chronometry.Text.Digits

/-!
# Patterns

A pattern says how an instant is written: characters that are copied, and directives behind a
percent sign.  A directive may carry a flag and a width.  `Pattern.ofText?` reads a pattern; what is
not a directive makes the pattern unreadable.
-/

namespace Chronometry
namespace Pattern

/-- How a directive departs from its usual padding or case. -/
inductive Flag where
  | unpadded | spaces | zeros | upperCase | swapCase
deriving DecidableEq, Repr

/-- The flag and the width of a directive. -/
structure Modifier where
  flag : Option Flag
  width : Option Nat
deriving DecidableEq, Repr

/-- A count that a directive writes. -/
inductive Count where
  | year | yearOfCentury | century | weekYear | weekYearOfCentury
  | month | day | dayOfYear | weekOfSundays | weekOfMondays | weekdayFromMonday | weekdayFromSunday
  | hour | clockHour | minute | second | unixSeconds
deriving DecidableEq, Repr

/-- A word that a directive writes. -/
inductive Word where
  | weekday | weekdayShort | month | monthShort | half | halfSmall | zone
deriving DecidableEq, Repr

/-- One part of a pattern. -/
inductive Piece where
  | literal (c : Char)
  /-- A count, padded with a filler to a width where the modifier does not say otherwise. -/
  | count (count : Count) (filler : Char) (width : Nat) (modifier : Modifier)
  | word (word : Word) (modifier : Modifier)
  /-- The fraction of the second; it may bring its own point. -/
  | fraction (pointed : Bool) (width : Option Nat)
  /-- The offset, with a separator between hours, minutes and seconds. -/
  | offset (separator : String)
  /-- The name of the zone, or its offset where it has none. -/
  | zoneName (separator : String)
deriving DecidableEq, Repr

/-- A flag at the head of a text, and what follows it. -/
def readFlag : List Char -> Option Flag × List Char
  | '-' :: rest => (some .unpadded, rest)
  | '_' :: rest => (some .spaces, rest)
  | '0' :: rest => (some .zeros, rest)
  | '^' :: rest => (some .upperCase, rest)
  | '#' :: rest => (some .swapCase, rest)
  | rest => (none, rest)

/-- A width at the head of a text, and what follows it.  A width is at most 255. -/
def readWidth (text : List Char) : Option (Option Nat × List Char) :=
  let (digits, rest) := Text.spanDigits text
  if digits.isEmpty then some (none, rest)
  else if Text.natOfDigits digits ≤ 255 then some (some (Text.natOfDigits digits), rest)
  else none

/-- The parts for which a directive of one letter stands.  The name of the zone has two letters. -/
def piecesOf? (modifier : Modifier) : Char -> Option (List Piece)
  | '%' => some [.literal '%']
  | 'n' => some [.literal '\n']
  | 't' => some [.literal '\t']
  | 'Y' => some [.count .year '0' 4 modifier]
  | 'y' => some [.count .yearOfCentury '0' 2 modifier]
  | 'C' => some [.count .century ' ' 0 modifier]
  | 'G' => some [.count .weekYear '0' 4 modifier]
  | 'g' => some [.count .weekYearOfCentury '0' 2 modifier]
  | 'm' => some [.count .month '0' 2 modifier]
  | 'd' => some [.count .day '0' 2 modifier]
  | 'e' => some [.count .day ' ' 2 modifier]
  | 'j' => some [.count .dayOfYear '0' 3 modifier]
  | 'U' => some [.count .weekOfSundays '0' 2 modifier]
  | 'W' => some [.count .weekOfMondays '0' 2 modifier]
  | 'u' => some [.count .weekdayFromMonday ' ' 0 modifier]
  | 'w' => some [.count .weekdayFromSunday ' ' 0 modifier]
  | 'H' => some [.count .hour '0' 2 modifier]
  | 'k' => some [.count .hour ' ' 2 modifier]
  | 'I' => some [.count .clockHour '0' 2 modifier]
  | 'l' => some [.count .clockHour ' ' 2 modifier]
  | 'M' => some [.count .minute '0' 2 modifier]
  | 'S' => some [.count .second '0' 2 modifier]
  | 's' => some [.count .unixSeconds ' ' 0 modifier]
  | 'A' => some [.word .weekday modifier]
  | 'a' => some [.word .weekdayShort modifier]
  | 'B' => some [.word .month modifier]
  | 'b' | 'h' => some [.word .monthShort modifier]
  | 'p' => some [.word .half modifier]
  | 'P' => some [.word .halfSmall modifier]
  | 'Z' => some [.word .zone modifier]
  | 'F' =>
      some [.count .year '0' 4 modifier, .literal '-', .count .month '0' 2 modifier, .literal '-',
        .count .day '0' 2 modifier]
  | 'D' =>
      some [.count .month '0' 2 modifier, .literal '/', .count .day '0' 2 modifier, .literal '/',
        .count .yearOfCentury '0' 2 modifier]
  | 'T' =>
      some [.count .hour '0' 2 modifier, .literal ':', .count .minute '0' 2 modifier, .literal ':',
        .count .second '0' 2 modifier]
  | 'R' => some [.count .hour '0' 2 modifier, .literal ':', .count .minute '0' 2 modifier]
  | 'f' => some [.fraction false modifier.width]
  | 'z' => some [.offset ""]
  | 'Q' | 'V' => some [.zoneName ""]
  | _ => none

/-- The parts for which a directive of one letter behind a colon stands: offsets with colons between
their parts. -/
def separatedPieces? : Char -> Option (List Piece)
  | 'z' => some [.offset ":"]
  | 'Q' | 'V' => some [.zoneName ":"]
  | _ => none

/-- The parts for which a directive with a colon or a point before its letter stands.  Behind the
point comes a width, which replaces an earlier one. -/
def readLetter (modifier : Modifier) : List Char -> Option (List Piece × List Char)
  | ':' :: c :: rest => (separatedPieces? c).map (·, rest)
  | '.' :: rest =>
    match readWidth rest with
    | some (width, 'f' :: rest) => some ([.fraction true width], rest)
    | _ => none
  | c :: rest => (piecesOf? modifier c).map (·, rest)
  | [] => none

/-- The directive behind a percent sign, and what follows it. -/
def readDirective (text : List Char) : Option (List Piece × List Char) :=
  let (flag, text) := readFlag text
  match readWidth text with
  | some (width, text) => readLetter ⟨flag, width⟩ text
  | none => none

theorem length_readFlag_le (text : List Char) : (readFlag text).2.length ≤ text.length := by
  unfold readFlag
  split <;> simp

theorem length_readWidth_le {text rest : List Char} {width : Option Nat}
    (read : readWidth text = some (width, rest)) :
    rest.length ≤ text.length := by
  simp only [readWidth] at read
  split at read
  · simp only [Option.some.injEq, Prod.mk.injEq] at read
    exact read.2 ▸ Text.length_spanDigits_le text
  · split at read
    · simp only [Option.some.injEq, Prod.mk.injEq] at read
      exact read.2 ▸ Text.length_spanDigits_le text
    · contradiction

theorem length_readLetter {modifier : Modifier} {text rest : List Char} {pieces : List Piece}
    (read : readLetter modifier text = some (pieces, rest)) : rest.length < text.length := by
  unfold readLetter at read
  split at read
  · simp only [Option.map_eq_some_iff, Prod.mk.injEq] at read
    obtain ⟨_, _, _, same⟩ := read
    simp only [← same, List.length_cons]
    omega
  · split at read
    next width tail readTail =>
      simp only [Option.some.injEq, Prod.mk.injEq] at read
      have := length_readWidth_le readTail
      simp only [List.length_cons] at this
      simp only [← read.2, List.length_cons]
      omega
    · contradiction
  · simp only [Option.map_eq_some_iff, Prod.mk.injEq] at read
    obtain ⟨_, _, _, same⟩ := read
    simp [← same]
  · contradiction

theorem length_readDirective {text rest : List Char} {pieces : List Piece}
    (read : readDirective text = some (pieces, rest)) : rest.length < text.length := by
  simp only [readDirective] at read
  split at read
  next width tail readTail =>
    exact Nat.lt_of_lt_of_le (length_readLetter read)
      (Nat.le_trans (length_readWidth_le readTail) (length_readFlag_le text))
  · contradiction

end Pattern

/-- The parts of a pattern, in order. -/
abbrev Pattern := List Pattern.Piece

namespace Pattern

/-- The pattern that a text denotes. -/
def ofText? (text : List Char) : Option Pattern :=
  match text with
  | [] => some []
  | '%' :: text =>
    match read : readDirective text with
    | some (pieces, rest) =>
      have := length_readDirective read
      (ofText? rest).map (pieces ++ ·)
    | none => none
  | c :: rest => (ofText? rest).map (.literal c :: ·)
termination_by text.length

end Pattern
end Chronometry
