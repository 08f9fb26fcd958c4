import DomainModels.Regex.CharSet
import DomainModels.Text.Unicode.Category
import DomainModels.Text.Unicode.Script
import DomainModels.Text.Unicode.Cased
/-! Named classes of characters: the Perl classes `\d`, `\s` and `\w`, the POSIX classes
such as `[:alpha:]`, and Unicode classes named by general category, script or binary
property. Names are matched loosely: case, spaces, underscores and hyphens are ignored, and
so is a leading `is`. -/
namespace DomainModels.Regex

open Text.Unicode

/-- Why a Unicode class name names no class. -/
inductive LookupError where
  | propertyNotFound
  | valueNotFound
  deriving Repr, DecidableEq

/-- A loosely matched name: ASCII letters lowered, spaces, underscores, hyphens and non-ASCII
characters dropped, a leading `is` ignored (but `isc` stays the name of the category). -/
def normalizeName (name : String) : String :=
  let cs := name.toList
  let (startsIs, body) := match cs with
    | a :: b :: rest => if (a == 'i' || a == 'I') && (b == 's' || b == 'S') then (true, rest) else (false, cs)
    | _ => (false, cs)
  let kept := body.filterMap fun c =>
    if c == ' ' || c == '_' || c == '-' || c.toNat > 0x7F then none
    else some c.toLower
  if startsIs && kept == ['c'] then "isc" else String.ofList kept

/-- The ranges of a table as a set. -/
def tableSet (table : Array (Nat × Nat)) : CharSet := CharSet.canonical table.toList

/-- The values of some general categories. -/
def categoriesSet (cats : List GeneralCategory) : CharSet :=
  CharSet.canonical ((categoryRanges.toList.filter fun r => cats.contains r.2.2).map fun r => (r.1, r.2.1))

/-- The unassigned code points. -/
def unassignedSet : CharSet :=
  (CharSet.canonical (categoryRanges.toList.map fun r => (r.1, r.2.1))).negate

/-- The general categories: short name, long name, other aliases, and the two-letter
categories each stands for. -/
def categoryNames : List (List String × List GeneralCategory) :=
  [(["C", "Other"], [.Cc, .Cf, .Co]), (["Cc", "Control", "cntrl"], [.Cc]), (["Cf", "Format"], [.Cf]),
   (["Cn", "Unassigned"], []), (["Co", "Private_Use"], [.Co]), (["Cs", "Surrogate"], [.Cs]),
   (["L", "Letter"], [.Lu, .Ll, .Lt, .Lm, .Lo]), (["LC", "Cased_Letter"], [.Lu, .Ll, .Lt]),
   (["Ll", "Lowercase_Letter"], [.Ll]), (["Lm", "Modifier_Letter"], [.Lm]),
   (["Lo", "Other_Letter"], [.Lo]), (["Lt", "Titlecase_Letter"], [.Lt]),
   (["Lu", "Uppercase_Letter"], [.Lu]), (["M", "Mark", "Combining_Mark"], [.Mn, .Mc, .Me]),
   (["Mc", "Spacing_Mark"], [.Mc]), (["Me", "Enclosing_Mark"], [.Me]),
   (["Mn", "Nonspacing_Mark"], [.Mn]), (["N", "Number"], [.Nd, .Nl, .No]),
   (["Nd", "Decimal_Number", "digit"], [.Nd]), (["Nl", "Letter_Number"], [.Nl]),
   (["No", "Other_Number"], [.No]),
   (["P", "Punctuation", "punct"], [.Pc, .Pd, .Ps, .Pe, .Pi, .Pf, .Po]),
   (["Pc", "Connector_Punctuation"], [.Pc]), (["Pd", "Dash_Punctuation"], [.Pd]),
   (["Pe", "Close_Punctuation"], [.Pe]), (["Pf", "Final_Punctuation"], [.Pf]),
   (["Pi", "Initial_Punctuation"], [.Pi]), (["Po", "Other_Punctuation"], [.Po]),
   (["Ps", "Open_Punctuation"], [.Ps]), (["S", "Symbol"], [.Sm, .Sc, .Sk, .So]),
   (["Sc", "Currency_Symbol"], [.Sc]), (["Sk", "Modifier_Symbol"], [.Sk]),
   (["Sm", "Math_Symbol"], [.Sm]), (["So", "Other_Symbol"], [.So]),
   (["Z", "Separator"], [.Zs, .Zl, .Zp]), (["Zl", "Line_Separator"], [.Zl]),
   (["Zp", "Paragraph_Separator"], [.Zp]), (["Zs", "Space_Separator"], [.Zs])]

/-- The class of a loosely matched general category name. -/
def categoryClass? (norm : String) : Option CharSet :=
  if norm == "any" then some CharSet.full
  else if norm == "assigned" then some unassignedSet.negate
  else if norm == "ascii" then some (CharSet.ofRange 0 0x7F)
  else
    (categoryNames.find? fun entry => entry.1.any fun n => normalizeName n == norm).map fun entry =>
      match entry.1 with
      | "Cn" :: _ => unassignedSet
      | "C" :: _ => (categoriesSet entry.2).union unassignedSet
      | _ => categoriesSet entry.2

/-- The class of a loosely matched script name. -/
def scriptClass? (norm : String) : Option CharSet :=
  (scriptNames.find? fun names => names.any fun n => normalizeName n == norm).bind fun names =>
    names.head?.map fun code => CharSet.canonical (scriptSet code)

/-- The decimal digits, `\d`. -/
def perlDigit : CharSet := categoriesSet [.Nd]

/-- The white space, `\s`. -/
def perlSpace : CharSet := tableSet whiteSpaceRanges

/-- The word characters, `\w`: letters and other alphabetic characters, marks, decimal
digits, connector punctuation and the joining controls. -/
def perlWord : CharSet :=
  CharSet.unionAll [tableSet alphabeticRanges, categoriesSet [.Mn, .Mc, .Me, .Nd, .Pc],
    tableSet joinControlRanges]

/-- The binary properties known by name, with their aliases. -/
def binaryProperties : List (List String × CharSet) :=
  [(["Alpha", "Alphabetic"], tableSet alphabeticRanges),
   (["WSpace", "White_Space", "space"], tableSet whiteSpaceRanges),
   (["Join_C", "Join_Control"], tableSet joinControlRanges),
   (["Upper", "Uppercase"], tableSet uppercaseRanges),
   (["Lower", "Lowercase"], tableSet lowercaseRanges)]

/-- The class of a loosely matched binary property name. -/
def binaryClass? (norm : String) : Option CharSet :=
  (binaryProperties.find? fun entry => entry.1.any fun n => normalizeName n == norm).map Prod.snd

/-- The class of a name standing alone (`\pL`, `\p{Greek}`): a binary property, then a
general category, then a script. The names `cf`, `sc` and `lc` are categories, not the
properties they also abbreviate. -/
def namedClass (name : String) : Except LookupError CharSet :=
  let norm := normalizeName name
  let asProperty := if norm == "cf" || norm == "sc" || norm == "lc" then none else binaryClass? norm
  match asProperty with
  | some s => .ok s
  | none =>
    match categoryClass? norm with
    | some s => .ok s
    | none =>
      match scriptClass? norm with
      | some s => .ok s
      | none => .error .propertyNotFound

/-- The class of `name=value`: a general category or a script. -/
def valueClass (name value : String) : Except LookupError CharSet :=
  let prop := normalizeName name
  let norm := normalizeName value
  if prop == "gc" || prop == "generalcategory" then
    match categoryClass? norm with
    | some s => .ok s
    | none => .error .valueNotFound
  else if prop == "sc" || prop == "script" then
    match scriptClass? norm with
    | some s => .ok s
    | none => .error .valueNotFound
  else .error .propertyNotFound

/-- The POSIX classes by name. -/
def asciiClass? (name : String) : Option CharSet :=
  let r := fun (pairs : List (Char × Char)) => CharSet.canonical (pairs.map fun p => (p.1.toNat, p.2.toNat))
  match name with
  | "alnum" => some (r [('0', '9'), ('A', 'Z'), ('a', 'z')])
  | "alpha" => some (r [('A', 'Z'), ('a', 'z')])
  | "ascii" => some (CharSet.ofRange 0 0x7F)
  | "blank" => some (r [('\t', '\t'), (' ', ' ')])
  | "cntrl" => some (CharSet.canonical [(0, 0x1F), (0x7F, 0x7F)])
  | "digit" => some (r [('0', '9')])
  | "graph" => some (r [('!', '~')])
  | "lower" => some (r [('a', 'z')])
  | "print" => some (r [(' ', '~')])
  | "punct" => some (r [('!', '/'), (':', '@'), ('[', '`'), ('\x7b', '~')])
  | "space" => some (CharSet.canonical [(9, 13), (32, 32)])
  | "upper" => some (r [('A', 'Z')])
  | "word" => some (r [('0', '9'), ('A', 'Z'), ('_', '_'), ('a', 'z')])
  | "xdigit" => some (r [('0', '9'), ('A', 'F'), ('a', 'f')])
  | _ => none

end DomainModels.Regex
