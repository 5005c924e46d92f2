import CounterTables.Text.Letter
import CounterTables.Text.WidthTable

/-!
# The width of text

How many columns of a terminal a text takes. Most characters have a width of
their own, but some share one with what follows them: the parts of an emoji, a
letter with the one it is joined to, a character with a selector of its form. So
a text is measured from its end, and what has been measured last is kept in
mind.

## Main definitions

* `Follower`, `Context` — what has been measured last, and the selector in front
  of it.
* `measure` — the columns that one more character adds, which may be negative.
* `columns` — the width of a text.
-/

namespace CounterTables.Text

open WidthTable

/-! ## Contexts -/

/-- What follows a character, as far as it matters for the width. -/
inductive Follower
  | other
  | lineFeed
  | emoji
  /-- A joiner and an emoji. -/
  | joinedEmoji
  /-- An enclosing keycap, joined to an emoji. -/
  | joinedKeycap
  /-- The last part of a flag made of tags, joined to an emoji. -/
  | joinedTag
  /-- A skin tone. -/
  | tone
  /-- A single regional indicator. -/
  | region
  /-- Two or more regional indicators. -/
  | regions
  /-- Regional indicators joined to an emoji; an odd number or an even one. -/
  | joinedRegions (odd : Bool)
  | alef
  | lamed (joined : Bool)
  /-- A letter that a coeng sign subjoins. -/
  | subjoined
  | buginYa (joined : Bool)
  | buginIYa
  | tifinagh (joined : Bool)
  | tifinaghJoiner
  | toneLetter
  | orkhonI (joined : Bool)
  | kiratE
  | kiratAi
  deriving DecidableEq

/-- A variation selector. -/
inductive Selector
  | wideQuote
  | text
  | emoji
  deriving DecidableEq

structure Context where
  follower : Follower
  selector : Option Selector
  deriving DecidableEq

namespace Context

/-- Nothing that matters. -/
def plain : Context := ⟨.other, none⟩

def of (follower : Follower) : Context := ⟨follower, none⟩

end Context

namespace Follower

/-- Whether the follower joins letters across characters that cannot be seen. -/
def isLetter : Follower → Bool
  | lamed _ | subjoined | buginYa _ | buginIYa
  | tifinagh _ | tifinaghJoiner | toneLetter
  | orkhonI _ | kiratE | kiratAi => true
  | _ => false

/-- The follower behind a joiner. -/
def join : Follower → Follower
  | emoji | regions | joinedRegions _ | tone => joinedEmoji
  | lamed _ => lamed true
  | buginYa _ => buginYa true
  | tifinagh _ => tifinagh true
  | orkhonI _ => orkhonI true
  | follower => if follower.isLetter then follower else other

/-- The context of a variation selector in front of the follower. -/
def select (selector : Selector) (follower : Follower) : Context :=
  let stays := follower.isLetter ||
    (selector == .emoji && (follower == joinedEmoji || follower == joinedKeycap))
  ⟨if stays then follower else other, some selector⟩

end Follower

/-! ## Classes of characters -/

def isIn (ranges : List (Nat × Nat)) (c : Char) : Bool :=
  inRanges ranges c.toNat

def isRegion (c : Char) : Bool := isIn [(0x1F1E6, 0x1F1FF)] c

/-- Marks that cannot be seen and do not part a letter from the next. -/
def isUnseenMark (c : Char) : Bool :=
  isIn [(0x34F, 0x34F), (0x17B4, 0x17B5), (0x180B, 0x180D), (0x180F, 0x180F),
    (0xFE00, 0xFE0F), (0xE0100, 0xE01EF)] c

/-- Marks that stand above or below letters and do not part them. -/
def isTransparent (c : Char) : Bool :=
  isIn zeroRanges c && !isIn opaqueRanges c

/-- The letters of Arabic that join a following alef. -/
def isLam (c : Char) : Bool :=
  isIn [(0x644, 0x644), (0x6B5, 0x6B8), (0x76A, 0x76A), (0x8A6, 0x8A6),
    (0x8C7, 0x8C7)] c

def isAlef (c : Char) : Bool :=
  isIn [(0x622, 0x623), (0x625, 0x625), (0x627, 0x627), (0x671, 0x673), (0x675, 0x675),
    (0x773, 0x774), (0x870, 0x882)] c

/-- The letters of Khmer that can be subjoined. -/
def isSubjoinable (c : Char) : Bool :=
  isIn [(0x1780, 0x1782), (0x1784, 0x1787), (0x1789, 0x178C), (0x178E, 0x1793),
    (0x1795, 0x1798), (0x179B, 0x179D), (0x17A0, 0x17A0), (0x17A2, 0x17A2),
    (0x17A7, 0x17A7), (0x17AB, 0x17AC), (0x17AF, 0x17AF)] c

def isTifinagh (c : Char) : Bool := isIn [(0x2D31, 0x2D65), (0x2D6F, 0x2D6F)] c

/-- Letters and digits of tags, and the end of them. -/
def isTag (c : Char) : Bool :=
  isIn [(0xE0030, 0xE0039), (0xE0061, 0xE007A), (0xE007F, 0xE007F)] c

def isQuote (c : Char) : Bool := isIn [(0x2018, 0x2019), (0x201C, 0x201D)] c

/-! ## Single characters -/

/-- What a character is to the one before it. -/
def followerOf (c : Char) : Follower :=
  if c = '\n' then .lineFeed
  else if isIn [(0x1F3FB, 0x1F3FF)] c then .tone
  else if isIn emojiRanges c then .emoji
  else if isRegion c then .region
  else if isAlef c then .alef
  else if c.toNat = 0x5DC then .lamed false
  else if isSubjoinable c then .subjoined
  else if c.toNat = 0x1A10 then .buginYa false
  else if isTifinagh c then .tifinagh false
  else if isIn [(0xA4FC, 0xA4FD)] c then .toneLetter
  else if c.toNat = 0x10C03 then .orkhonI false
  else if c.toNat = 0x16D67 then .kiratE
  else if c.toNat = 0x16D68 then .kiratAi
  else .other

/-- The width that a character has on its own. -/
def charColumns (c : Char) : Nat :=
  if c.toNat ≤ 0xA0 then 1
  else if c.toNat = 0x17D8 then 3
  else if c.toNat = 0x17A4 then 2
  else if isIn zeroRanges c then 0
  else if isIn wideRanges c then 2
  else 1

/-- The context that a character makes for the one before it. -/
def contextOf (c : Char) : Context :=
  if c.toNat = 0xFE0F then ⟨.other, some .emoji⟩
  else if c.toNat = 0xFE0E then ⟨.other, some .text⟩
  else if c.toNat = 0xFE01 then ⟨.other, some .wideQuote⟩
  else .of (followerOf c)

/-! ## Characters before others -/

/-- What a character adds before a follower that it makes one piece with. -/
def ligature? (c : Char) : Follower → Option (Int × Context)
  | .alef =>
      if isLam c then some (0, .plain)
      else if isTransparent c then some (0, .of .alef)
      else none
  | .lamed true => if c.toNat = 0x5D0 then some (0, .plain) else none
  | .subjoined => if c.toNat = 0x17D2 then some (-1, .plain) else none
  | .buginYa true => if c.toNat = 0x1A17 then some (0, .of .buginIYa) else none
  | .buginIYa => if c.toNat = 0x1A15 then some (0, .plain) else none
  | .tifinagh joined =>
      if c.toNat = 0x2D7F then some (1, .of .tifinaghJoiner)
      else if joined && isTifinagh c then some (0, .plain)
      else none
  | .tifinaghJoiner => if isTifinagh c then some (-1, .plain) else none
  | .toneLetter => if isIn [(0xA4F8, 0xA4FB)] c then some (0, .plain) else none
  | .orkhonI true => if c.toNat = 0x10C32 then some (0, .plain) else none
  | .kiratE =>
      if c.toNat = 0x16D63 || c.toNat = 0x16D69 then some (0, .plain)
      else if c.toNat = 0x16D67 then some (0, .of .kiratAi)
      else if c.toNat = 0x16D68 then some (1, .of .kiratE)
      else none
  | .kiratAi => if c.toNat = 0x16D63 then some (0, .plain) else none
  | .tone => if isIn modifiableRanges c then some (0, .of .emoji) else none
  | .region => if isRegion c then some (1, .of .regions) else none
  | .regions => if isRegion c then some (1, .of .regions) else none
  | .joinedRegions odd =>
      if !isRegion c then none
      else if odd then some (-1, .of (.joinedRegions false))
      else some (3, .of (.joinedRegions true))
  | .joinedTag =>
      if c.toNat = 0x1F3F4 then some (0, .of .emoji)
      else if isTag c then some (0, .of .joinedTag)
      else none
  | .joinedEmoji =>
      if c.toNat = 0x20E3 then some (0, .of .joinedKeycap)
      else if isRegion c then some (1, .of (.joinedRegions true))
      else if c.toNat = 0xE007F then some (0, .of .joinedTag)
      else
        match followerOf c with
        | .tone => some (0, .of .tone)
        | .emoji => some (0, .of .emoji)
        | _ => none
  | _ => none

/-- What a character beyond ASCII adds before a follower. -/
def measureBefore (c : Char) (follower : Follower) : Int × Context :=
  if c.toNat = 0xFE0F then (0, follower.select .emoji)
  else if c.toNat = 0xFE0E then (0, follower.select .text)
  else if c.toNat = 0xFE01 && !follower.isLetter then (0, follower.select .wideQuote)
  else if c.toNat = 0x200D then (0, .of follower.join)
  else if follower.isLetter && isUnseenMark c then (0, .of follower)
  else (ligature? c follower).getD (charColumns c, contextOf c)

/-- Whether a selector can turn an emoji into text. -/
def becomesText (c : Char) : Bool :=
  isIn emojiRanges c && isIn selectableRanges c && !isIn [(0x1F200, 0x1F2FF)] c

/-- What a selector makes of the character in front of it. -/
def selected? (c : Char) (context : Context) : Option (Int × Context) :=
  match context.selector with
  | some .emoji =>
      if isIn selectableRanges c then
        some
          (if context.follower = .other || context.follower.isLetter then 2 else 0,
            .of .emoji)
      else none
  | some .text => if becomesText c then some (1, .plain) else none
  | some .wideQuote => if isQuote c then some (2, .plain) else none
  | none => none

/-- The follower once a selector in front of it has not been used. -/
def unselected (context : Context) : Follower :=
  if context.selector.isSome && !context.follower.isLetter then .other
  else context.follower

/-- What a character adds to the width of the text behind it. -/
def measure (c : Char) (context : Context) : Int × Context :=
  match selected? c context with
  | some measured => measured
  | none =>
      if c = '\r' && context.follower = .lineFeed then (0, .plain)
      else if c.toNat ≤ 0xA0 then (1, contextOf c)
      else measureBefore c (unselected context)

/-- How many columns a text takes. -/
def columns (text : String) : Nat :=
  (text.toList.foldr
    (fun c (width, context) =>
      let (more, before) := measure c context
      (width + more, before)) ((0 : Int), Context.plain)).1.toNat

end CounterTables.Text
