import SnippetCheck.Pattern.CharSet

/-!
# Named Properties

The sets of characters that a pattern can name by a property of characters. Names are
compared without regard to case, spaces, hyphens and underscores, and without a leading
`is`.
-/

namespace SnippetCheck.Pattern.Property

open SnippetCheck.Text CharSet

/-- A name as it is looked up. -/
def canonical (name : List Char) : String :=
  let tidy := fun name : List Char =>
    (name.filter fun c => c != ' ' && c != '-' && c != '_' && c.toNat < 0x80).map Char.toLower
  if (name.take 2).map Char.toLower = ['i', 's'] then
    let rest := tidy (name.drop 2)
    if rest = ['c'] then "isc" else String.ofList rest
  else String.ofList (tidy name)

/-- The categories, with the names of each. -/
def categories : List (List String × List (Nat × Nat)) :=
  [(["lu", "uppercaseletter"], Category.uppercaseLetter),
    (["ll", "lowercaseletter"], Category.lowercaseLetter),
    (["lt", "titlecaseletter"], Category.titlecaseLetter),
    (["lm", "modifierletter"], Category.modifierLetter),
    (["lo", "otherletter"], Category.otherLetter),
    (["mn", "nonspacingmark"], Category.nonspacingMark),
    (["mc", "spacingmark"], Category.spacingMark),
    (["me", "enclosingmark"], Category.enclosingMark),
    (["nd", "decimalnumber", "digit"], Category.decimalNumber),
    (["nl", "letternumber"], Category.letterNumber),
    (["no", "othernumber"], Category.otherNumber),
    (["pc", "connectorpunctuation"], Category.connectorPunctuation),
    (["pd", "dashpunctuation"], Category.dashPunctuation),
    (["ps", "openpunctuation"], Category.openPunctuation),
    (["pe", "closepunctuation"], Category.closePunctuation),
    (["pi", "initialpunctuation"], Category.initialPunctuation),
    (["pf", "finalpunctuation"], Category.finalPunctuation),
    (["po", "otherpunctuation"], Category.otherPunctuation),
    (["sm", "mathsymbol"], Category.mathSymbol),
    (["sc", "currencysymbol"], Category.currencySymbol),
    (["sk", "modifiersymbol"], Category.modifierSymbol),
    (["so", "othersymbol"], Category.otherSymbol),
    (["zs", "spaceseparator"], Category.spaceSeparator),
    (["zl", "lineseparator"], Category.lineSeparator),
    (["zp", "paragraphseparator"], Category.paragraphSeparator),
    (["cc", "control", "cntrl"], Category.control),
    (["cf", "format"], Category.format),
    (["co", "privateuse"], Category.privateUse)]

/-- The set of the categories with the given short names. -/
def ofShortNames (names : List String) : CharSet :=
  unions (categories.filterMap fun (known, ranges) =>
    if known.any names.contains then some (table ranges) else none)

/-- The assigned characters. -/
def assigned : CharSet :=
  unions (categories.map fun (_, ranges) => table ranges)

/-- The groups of categories, with the names of each. -/
def groups : List (List String × CharSet) :=
  [(["l", "letter"], ofShortNames ["lu", "ll", "lt", "lm", "lo"]),
    (["lc", "casedletter"], ofShortNames ["lu", "ll", "lt"]),
    (["m", "mark", "combiningmark"], ofShortNames ["mn", "mc", "me"]),
    (["n", "number"], ofShortNames ["nd", "nl", "no"]),
    (["p", "punctuation", "punct"], ofShortNames ["pc", "pd", "ps", "pe", "pi", "pf", "po"]),
    (["s", "symbol"], ofShortNames ["sm", "sc", "sk", "so"]),
    (["z", "separator"], ofShortNames ["zs", "zl", "zp"]),
    (["c", "other"], complement (ofShortNames ["lu", "ll", "lt", "lm", "lo", "mn", "mc", "me", "nd",
      "nl", "no", "pc", "pd", "ps", "pe", "pi", "pf", "po", "sm", "sc", "sk", "so", "zs", "zl",
      "zp"])),
    (["cn", "unassigned"], complement assigned),
    (["any"], CharSet.any),
    (["assigned"], assigned),
    (["ascii"], range 0 0x7f)]

/-- The set of a category or a group of categories. -/
def category? (name : String) : Option CharSet :=
  match categories.find? fun (names, _) => names.contains name with
  | some (_, ranges) => some (table ranges)
  | none => (groups.find? fun (names, _) => names.contains name).map Prod.snd

/-- The scripts, with the names of each. -/
def scripts : List (List String × List (Nat × Nat)) :=
  [(["latin", "latn"], Script.latin), (["greek", "grek"], Script.greek),
    (["cyrillic", "cyrl"], Script.cyrillic), (["armenian", "armn"], Script.armenian),
    (["hebrew", "hebr"], Script.hebrew), (["arabic", "arab"], Script.arabic),
    (["devanagari", "deva"], Script.devanagari), (["bengali", "beng"], Script.bengali),
    (["thai"], Script.thai), (["hangul", "hang"], Script.hangul),
    (["hiragana", "hira"], Script.hiragana), (["katakana", "kana"], Script.katakana),
    (["han", "hani"], Script.han), (["georgian", "geor"], Script.georgian),
    (["ethiopic", "ethi"], Script.ethiopic), (["common", "zyyy"], Script.common),
    (["inherited", "zinh", "qaai"], Script.inherited)]

/-- The set of a script. -/
def script? (name : String) : Option CharSet :=
  (scripts.find? fun (names, _) => names.contains name).map fun (_, ranges) => table ranges

/-- The properties that are no categories, with the names of each. -/
def binaries : List (List String × CharSet) :=
  [(["alphabetic", "alpha"],
      .union (ofShortNames ["lu", "ll", "lt", "lm", "lo", "nl"]) (table Category.otherAlphabetic)),
    (["lowercase", "lower"],
      .union (table Category.lowercaseLetter) (table Category.otherLowercase)),
    (["uppercase", "upper"],
      .union (table Category.uppercaseLetter) (table Category.otherUppercase)),
    (["whitespace", "wspace", "space"], .blank),
    (["asciihexdigit", "ahex"], table [(0x30, 0x39), (0x41, 0x46), (0x61, 0x66)]),
    (["hexdigit", "hex"], table [(0x30, 0x39), (0x41, 0x46), (0x61, 0x66), (0xff10, 0xff19),
      (0xff21, 0xff26), (0xff41, 0xff46)]),
    (["joincontrol", "joinc"], range 0x200c 0x200d)]

/-- The set that a single name stands for. -/
def named? (name : List Char) : Option CharSet :=
  let name := canonical name
  match binaries.find? fun (names, _) => names.contains name with
  | some (_, set) => some set
  | none =>
    match category? name with
    | some set => some set
    | none => script? name

/-- The set that a value of a named property stands for. -/
def valued? (name value : List Char) : Option CharSet :=
  let value := canonical value
  match canonical name with
  | "generalcategory" | "gc" => category? value
  | "script" | "sc" => script? value
  | _ => none

end SnippetCheck.Pattern.Property
