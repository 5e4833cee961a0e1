import VirtualShell.Text.WidthTable

namespace VirtualShell.Text

-- The right part of a ligature that a character further left may complete.
inductive Ligature
  | lamed
  | ya
  | yaWithVowel
  | tifinagh
  | joinedTifinagh
  | toneLetter
  | orkhonI
  | coengLetter
  deriving DecidableEq, Repr

inductive Follower
  | plain
  | lineFeed
  | alef
  | ligature (part : Ligature) (joined : Bool)
  | skinTone
  | region
  | regions
  | emoji
  -- a zero-width joiner, and behind it an emoji that is complete or still lacks its left part
  | joinedEmoji
  | joinedKeycap
  | joinedRegion
  | joinedRegionsEven
  | joinedRegionsOdd
  | joinedTagLetters (count : Nat)
  | joinedTagDigits (count : Nat)
  | vowelE
  | vowelAI
  deriving DecidableEq, Repr

-- What bears on a character from the text behind it, which is measured first.
structure Right where
  follower : Follower := .plain
  textStyle : Bool := false
  emojiStyle : Bool := false
  quoteStyle : Bool := false
  deriving DecidableEq, Repr

namespace Right

def transparent (r : Right) : Bool :=
  match r.follower with
  | .alef | .ligature .. => true
  | _ => false

def withEmojiStyle (r : Right) : Right :=
  match r.follower with
  | .alef | .ligature .. | .joinedEmoji | .joinedKeycap => { r with emojiStyle := true }
  | _ => { emojiStyle := true }

def withoutEmojiStyle (r : Right) : Right :=
  if r.transparent then { r with emojiStyle := false } else {}

def withTextStyle (r : Right) : Right :=
  if r.transparent then { r with textStyle := true } else { textStyle := true }

def withQuoteStyle (r : Right) : Right :=
  if r.transparent then { r with quoteStyle := true } else { quoteStyle := true }

end Right

def within (c : Char) (lo hi : Nat) : Bool := lo ≤ c.toNat && c.toNat ≤ hi

def isLam (c : Char) : Bool :=
  Ranges.has [(0x0644, 0x0644), (0x06B5, 0x06B8), (0x076A, 0x076A), (0x08A6, 0x08A6), (0x08C7, 0x08C7)] c

def isAlef (c : Char) : Bool :=
  Ranges.has [(0x0622, 0x0623), (0x0625, 0x0625), (0x0627, 0x0627), (0x0671, 0x0673), (0x0675, 0x0675),
    (0x0773, 0x0774), (0x0870, 0x0882)] c

def isCoengLetter (c : Char) : Bool :=
  Ranges.has [(0x1780, 0x1782), (0x1784, 0x1787), (0x1789, 0x178C), (0x178E, 0x1793), (0x1795, 0x1798),
    (0x179B, 0x179D), (0x17A0, 0x17A0), (0x17A2, 0x17A2), (0x17A7, 0x17A7), (0x17AB, 0x17AC),
    (0x17AF, 0x17AF)] c

def isTifinagh (c : Char) : Bool := Ranges.has [(0x2D31, 0x2D65), (0x2D6F, 0x2D6F)] c

def isRegion (c : Char) : Bool := within c 0x1F1E6 0x1F1FF

def isSkinTone (c : Char) : Bool := within c 0x1F3FB 0x1F3FF

def isTagLetter (c : Char) : Bool := within c 0xE0061 0xE007A

def isTagDigit (c : Char) : Bool := within c 0xE0030 0xE0039

def isQuote (c : Char) : Bool := Ranges.has [(0x2018, 0x2019), (0x201C, 0x201D)] c

def isIgnorableMark (c : Char) : Bool :=
  Ranges.has [(0x034F, 0x034F), (0x17B4, 0x17B5), (0x180B, 0x180D), (0x180F, 0x180F), (0x200D, 0x200D),
    (0xFE00, 0xFE0F), (0xE0100, 0xE01EF)] c

def charWidth (c : Char) : Nat :=
  if c.toNat ≤ 0xA0 then 1
  else if zeroRanges.has c then 0
  else if c.toNat = 0x17D8 then 3
  else if wideRanges.has c then 2
  else 1

def followerOf (c : Char) : Follower :=
  if c = '\n' then .lineFeed
  else if c.toNat ≤ 0xA0 then .plain
  else if c.toNat = 0x05DC then .ligature .lamed false
  else if isAlef c then .alef
  else if isCoengLetter c then .ligature .coengLetter true
  else if c.toNat = 0x1A10 then .ligature .ya false
  else if isTifinagh c then .ligature .tifinagh false
  else if within c 0xA4FC 0xA4FD then .ligature .toneLetter true
  else if c.toNat = 0x10C03 then .ligature .orkhonI false
  else if c.toNat = 0x16D67 then .vowelE
  else if c.toNat = 0x16D68 then .vowelAI
  else if isRegion c then .region
  else if isSkinTone c then .skinTone
  else if emojiRanges.has c then .emoji
  else .plain

def joined? (c : Char) : Follower → Option (Int × Follower)
  | .alef =>
    if isLam c then some (0, .plain)
    else if zeroRanges.has c && !opaqueRanges.has c then some (0, .alef)
    else none
  | .ligature part joined =>
    match part with
    | .lamed => if joined && c.toNat = 0x05D0 then some (0, .plain) else none
    | .coengLetter => if c.toNat = 0x17D2 then some (-1, .plain) else none
    | .ya => if joined && c.toNat = 0x1A17 then some (0, .ligature .yaWithVowel true) else none
    | .yaWithVowel => if c.toNat = 0x1A15 then some (0, .plain) else none
    | .tifinagh =>
      if c.toNat = 0x2D7F then some (1, .ligature .joinedTifinagh true)
      else if joined && isTifinagh c then some (0, .plain)
      else none
    | .joinedTifinagh => if isTifinagh c then some (-1, .plain) else none
    | .toneLetter => if within c 0xA4F8 0xA4FB then some (0, .plain) else none
    | .orkhonI => if joined && c.toNat = 0x10C32 then some (0, .plain) else none
  | .skinTone =>
    if modifiedRanges.has c then some (0, .emoji)
    else if c = '\u200D' then some (0, .joinedEmoji)
    else none
  | .region => if isRegion c then some (1, .regions) else none
  | .regions =>
    if isRegion c then some (1, .regions)
    else if c = '\u200D' then some (0, .joinedEmoji)
    else none
  | .emoji => if c = '\u200D' then some (0, .joinedEmoji) else none
  | .joinedEmoji =>
    if c.toNat = 0x20E3 then some (0, .joinedKeycap)
    else if isRegion c then some (1, .joinedRegion)
    else if isSkinTone c then some (0, .skinTone)
    else if c.toNat = 0xE007F then some (0, .joinedTagLetters 0)
    else if followerOf c = .emoji then some (0, .emoji)
    else none
  | .joinedRegion => if isRegion c then some (-1, .joinedRegionsEven) else none
  | .joinedRegionsOdd =>
    if isRegion c then some (-1, .joinedRegionsEven)
    else if c = '\u200D' then some (0, .joinedEmoji)
    else none
  | .joinedRegionsEven =>
    if isRegion c then some (3, .joinedRegionsOdd)
    else if c = '\u200D' then some (0, .joinedEmoji)
    else none
  | .joinedTagLetters n =>
    if isTagLetter c && n < 6 then some (0, .joinedTagLetters (n + 1))
    else if isTagDigit c && n < 5 then some (0, .joinedTagDigits 1)
    else if 3 ≤ n && c.toNat = 0x1F3F4 then some (0, .emoji)
    else none
  | .joinedTagDigits n =>
    if isTagDigit c && n < 3 then some (0, .joinedTagDigits (n + 1))
    else if n = 3 && c.toNat = 0x1F3F4 then some (0, .emoji)
    else none
  | .vowelE =>
    if c.toNat = 0x16D63 then some (0, .plain)
    else if c.toNat = 0x16D67 then some (0, .vowelAI)
    else if c.toNat = 0x16D68 then some (1, .vowelE)
    else if c.toNat = 0x16D69 then some (0, .plain)
    else none
  | .vowelAI => if c.toNat = 0x16D63 then some (0, .plain) else none
  | .plain | .lineFeed | .joinedKeycap => none

def placeWide (c : Char) (r : Right) : Int × Right :=
  let r := if r.quoteStyle then { r with quoteStyle := false } else r
  let r := { r with textStyle := false }
  match r.follower with
  | .ligature part _ =>
    if c = '\u200D' then (0, { r with follower := .ligature part true })
    else if isIgnorableMark c then (0, r)
    else match joined? c r.follower with
      | some (w, f) => (w, { follower := f })
      | none => (charWidth c, { follower := followerOf c })
  | f =>
    match joined? c f with
    | some (w, f) => (w, { follower := f })
    | none => (charWidth c, { follower := followerOf c })

-- The columns that a character adds in front of what stands right of it, and what it makes of
-- that for the next one.
def place (c : Char) (r : Right) : Int × Right :=
  if r.emojiStyle && styledRanges.has c then
    (if r.follower = .joinedEmoji ∨ r.follower = .joinedKeycap then 0 else 2, { follower := .emoji })
  else
    let r := if r.emojiStyle then r.withoutEmojiStyle else r
    if c.toNat ≤ 0xA0 then
      (if c = '\r' ∧ r = { follower := .lineFeed } then 0 else 1, { follower := followerOf c })
    else if c = '\uFE0F' then (0, r.withEmojiStyle)
    else if c = '\uFE0E' then (0, r.withTextStyle)
    else if c = '\uFE01' then (0, r.withQuoteStyle)
    else if r.textStyle && textStyledRanges.has c then (1, {})
    else if r.quoteStyle && isQuote c then (2, {})
    else placeWide c r

def measure : List Char → Int × Right
  | [] => (0, {})
  | c :: s =>
    let (w, r) := measure s
    let (v, r) := place c r
    (v + w, r)

def width (s : List Char) : Nat := (measure s).1.toNat

end VirtualShell.Text
