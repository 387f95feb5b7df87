/-
The encodings of Korean text. KS X 1001 has one; its extension has the rest
of the syllables in the cells around the grid.

* `hangulGroup`: the groups of the first;
* `hangulExtendedPair?`: the characters of the extension.
-/
import LivePage.Text.Charset.Japanese
import LivePage.Text.Grid.Hangul

namespace LivePage

/-! ### Syllables letter by letter -/

/-- The letters that may begin a syllable. -/
def hangulInitials : List Char := "ㄱㄲㄴㄷㄸㄹㅁㅂㅃㅅㅆㅇㅈㅉㅊㅋㅌㅍㅎ".toList

/-- The vowels of syllables. -/
def hangulVowels : List Char := "ㅏㅐㅑㅒㅓㅔㅕㅖㅗㅘㅙㅚㅛㅜㅝㅞㅟㅠㅡㅢㅣ".toList

/-- What may end a syllable; the filler stands for nothing. -/
def hangulFinals : List Char := "\u3164ㄱㄲㄳㄴㄵㄶㄷㄹㄺㄻㄼㄽㄾㄿㅀㅁㅂㅄㅅㅆㅇㅈㅊㅋㅌㅍㅎ".toList

/-- The syllable of three letters. -/
def hangulSyllable? (initial vowel final : Char) : Option Char := do
  let initial ← hangulInitials.idxOf? initial
  let vowel ← hangulVowels.idxOf? vowel
  let final ← hangulFinals.idxOf? final
  return Char.ofNat (0xAC00 + 588 * initial + 28 * vowel + final)

/-- The group at the front of EUC-KR. Eight bytes that begin with the filler are a syllable letter
by letter. -/
def hangulGroup (lead : UInt8) (rest : List UInt8) : ByteGroup :=
  match lead, rest with
  | 0xA4, 0xD4 :: a :: initial :: b :: vowel :: c :: final :: _ =>
    if a == 0xA4 && b == 0xA4 && c == 0xA4 then
      .ofChar? (do
        hangulSyllable? (← hangul.high? a initial) (← hangul.high? b vowel)
          (← hangul.high? c final)) 7
    else .meaningless 0
  | 0xA4, 0xD4 :: _ => .meaningless rest.length
  | _, _ => pairGroup hangul.high? lead rest

/-! ### All syllables -/

/-- The syllables that KS X 1001 has not, in order. -/
def otherSyllables : Array Char :=
  let found := (hangul.toList.flatMap Array.toList).foldl
    (fun marks c => if c.toNat < 0xAC00 then marks else marks.setIfInBounds (c.toNat - 0xAC00) true)
    (Array.replicate 11172 false)
  let others := (List.range 11172).filter fun n => !(found[n]?.getD false)
  (others.map fun n => Char.ofNat (0xAC00 + n)).toArray

/-- The number of a syllable that KS X 1001 has not: rows of 178 cells in front of the grid, then
rows of 84 on its left. -/
def otherSyllable? (lead trail : UInt8) : Option Nat :=
  (cellOf? [(0x81, 0xA0)] [(0x41, 0x5A), (0x61, 0x7A), (0x81, 0xFE)] 178 lead trail).or
    ((cellOf? [(0xA1, 0xC6)] [(0x41, 0x5A), (0x61, 0x7A), (0x81, 0xA0)] 84 lead trail).map
      (5696 + ·))

/-- The character of two bytes in the extension. -/
def hangulExtendedPair? (lead trail : UInt8) : Option Char :=
  (hangul.high? lead trail).or ((otherSyllable? lead trail).bind (otherSyllables[·]?))

/-! ### Letters in bits -/

/-- The numbers of a letter's five bits that mean something: 1 stands for no letter, and the
letters are numbered from 2 on. -/
def letterOf? (letters : List Char) (bits : List Nat) (n : Nat) : Option (Option Char) :=
  if n == bits.headD 0 then some none
  else (bits.tail.idxOf? n).bind fun i => letters[i]?.map some

/-- The character of three letters, of which some may be missing. -/
def lettersChar? (initial vowel final : Option Char) : Option Char :=
  match initial, vowel, final with
  | none, none, none => some '\u3000'
  | none, none, some c | none, some c, none | some c, none, none => some c
  | some c, some v, final => hangulSyllable? c v (final.getD '\u3164')
  | _, _, _ => none

/-- The character of two bytes that hold three letters in five bits each. -/
def johabLetters? (lead trail : UInt8) : Option Char := do
  let n := 256 * lead.toNat + trail.toNat
  let initial ← letterOf? hangulInitials (List.range' 1 20) (n / 1024 % 32)
  let vowel ← letterOf? hangulVowels
    [2, 3, 4, 5, 6, 7, 10, 11, 12, 13, 14, 15, 18, 19, 20, 21, 22, 23, 26, 27, 28, 29]
    (n / 32 % 32)
  let final ← letterOf? hangulFinals.tail
    [1, 2, 3, 4, 5, 6, 7, 8, 9, 10, 11, 12, 13, 14, 15, 16, 17, 19, 20, 21, 22, 23, 24, 25, 26,
      27, 28, 29] (n % 32)
  lettersChar? initial vowel final

/-- The number of a cell of KS X 1001 in two bytes, two rows to a lead byte: 12 rows of signs, and
the hanja from row 41 on. -/
def johabCell? (lead trail : UInt8) : Option Nat :=
  let trails := [(0x31, 0x7E), (0x91, 0xFE)]
  (cellOf? [(0xD9, 0xDE)] trails 188 lead trail).or
    ((cellOf? [(0xE0, 0xF9)] trails 188 lead trail).map (3854 + ·))

/-- The character of two bytes in Johab, where syllables are written letter by letter and only
signs and hanja are cells of KS X 1001. -/
def johabPair? (lead trail : UInt8) : Option Char :=
  if lead < 0xD8 then johabLetters? lead trail
  else (johabCell? lead trail).bind fun cell =>
    if 282 ≤ cell && cell < 333 then none else hangul.numbered? 94 cell

end LivePage
