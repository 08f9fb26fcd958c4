/-! Fuzzy matching of a typed name against a known one, to suggest what was meant. The
typed text must occur in the candidate as a subsequence, letters compared without case;
among the ways it does, the best alignment is scored. Each matched character earns a
base score, more at the start of the candidate, after a separator and on a hump of
camel case, and more again when it directly follows the previous match; a run of
skipped characters between two matches costs a start penalty and a smaller one per
further character. Skipped characters before the first match and after the last one
cost nothing. -/
namespace DomainModels.Text.Fuzzy

/-- The weights of the score. -/
structure Weights where
  matched : Int := 16
  gapStart : Int := -3
  gapExtension : Int := -1
  firstCharMultiplier : Int := 2
  head : Int := 8
  separator : Int := 7
  camel : Int := 6
  consecutive : Int := 4
  caseMismatch : Int := -2

/-- How a character bounds a word. -/
inductive CharClass where
  | empty
  | upper
  | lower
  | number
  | hardSeparator
  | softSeparator
  deriving DecidableEq, Repr

/-- The class of a character; the null character stands for the start of the text. -/
def CharClass.of (c : Char) : CharClass :=
  let n := c.toNat
  if n == 0 then .empty
  else if c == ' ' || c == '/' || c == '\\' || c == '|' || c == '(' || c == ')' || c == '[' || c == ']' ||
      n == 0x7B || n == 0x7D then .hardSeparator
  else if (0x21 ≤ n && n ≤ 0x27) || (0x2A ≤ n && n ≤ 0x2E) || (0x3A ≤ n && n ≤ 0x40) ||
      (0x5E ≤ n && n ≤ 0x60) || n == 0x7E then .softSeparator
  else if 0x30 ≤ n && n ≤ 0x39 then .number
  else if 0x41 ≤ n && n ≤ 0x5A then .upper
  else .lower

/-- The bonus of a character for where it stands, from the class of the one before. -/
def placeBonus (w : Weights) : CharClass → CharClass → Int
  | .empty, _ => w.head
  | .hardSeparator, _ => w.head
  | .softSeparator, _ => w.separator
  | .lower, .upper => w.camel
  | .number, .upper => w.camel
  | _, _ => 0

/-- The bonus of every character of a candidate; the first one's is multiplied. -/
def placeBonuses (w : Weights) (choice : List Char) : List Int :=
  let prevs := '\x00' :: choice
  let bonuses := (prevs.zip choice).map fun (p, c) => placeBonus w (CharClass.of p) (CharClass.of c)
  match bonuses with
  | [] => []
  | b :: rest => b * w.firstCharMultiplier :: rest

/-- Letters compared without case. -/
def sameIgnoringCase (a b : Char) : Bool := a.toLower == b.toLower

/-- The larger of two scores, where a missing score is the least. -/
def best : Option Int → Option Int → Option Int
  | some a, some b => some (max a b)
  | some a, none => some a
  | none, b => b

/-- One cell of the alignment at a prefix of the candidate: the best score of a prefix of
the pattern whose last character is matched at the prefix's last character (`onMatch`),
and the best whose last character is matched before it (`onGap`). -/
structure Cell where
  onMatch : Option Int
  onGap : Option Int

/-- The cell of the empty candidate prefix after the first pattern character. -/
def Cell.unreached : Cell := { onMatch := none, onGap := none }

/-- The next row, for pattern character `p`, from the previous row; the previous row's
cells stand one candidate character behind. -/
def nextRow (w : Weights) (p : Char) (choice : List Char) (bonuses : List Int) (previous : List Cell) :
    List Cell :=
  go Cell.unreached choice bonuses previous
where
  /-- The cells from one candidate character on, after the cell to its left. -/
  go (left : Cell) : List Char → List Int → List Cell → List Cell
    | c :: cs, b :: bs, diag :: ds =>
      let onGap := best (left.onMatch.map (· + w.gapStart)) (left.onGap.map (· + w.gapExtension))
      let onMatch :=
        if sameIgnoringCase c p then
          (best (diag.onMatch.map (· + w.consecutive)) diag.onGap).map fun base =>
            base + w.matched + b + (if c == p then 0 else w.caseMismatch)
        else none
      let cell : Cell := { onMatch, onGap }
      cell :: go cell cs bs ds
    | _, _, _ => []

/-- The score of the best alignment of a pattern in a candidate, or none when the pattern
is no subsequence of it. -/
def score? (choice pattern : String) (w : Weights := {}) : Option Int :=
  if pattern.isEmpty then some 0
  else
    let cs := choice.toList
    let bonuses := placeBonuses w cs
    let start : List Cell := (' ' :: cs).map fun _ => { onMatch := none, onGap := some 0 }
    let last := pattern.toList.foldl (fun row p => Cell.unreached :: nextRow w p cs bonuses row) start
    last.foldl (fun acc cell => best acc cell.onMatch) none

/-- The candidate with the highest score; of equal scores the later one. -/
def bestMatch? (pattern : String) (candidates : List String) : Option String :=
  (candidates.foldl (fun (chosen : Option (Int × String)) c =>
    match score? c pattern, chosen with
    | some s, some (t, _) => if s ≥ t then some (s, c) else chosen
    | some s, none => some (s, c)
    | none, _ => chosen) none).map Prod.snd

end DomainModels.Text.Fuzzy
