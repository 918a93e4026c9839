import AttrExpr.Unicode.Age
import AttrExpr.Unicode.Segmentation

/-! Character sets by name, as patterns ask for them: a category, a script, a property, or a
property with a value. Case, blanks, underscores, hyphens and a leading `is` do not count. -/
set_option autoImplicit false

namespace AttrExpr.Unicode

/-- The part of a name that counts. -/
def looseName (name : String) : String :=
  let cs := name.toList
  let isPrefixed := (cs.take 2).map Char.toLower == ['i', 's']
  let kept := ((if isPrefixed then cs.drop 2 else cs).filter fun c =>
    c.toNat < 128 && !(c == ' ' || c == '_' || c == '-')).map Char.toLower
  if isPrefixed && kept == ['c'] then "isc" else .ofList kept

/-- Several categories under one name. -/
def categoryGroup? : String → Option (List Category)
  | "l" | "letter" =>
    some [.uppercaseLetter, .lowercaseLetter, .titlecaseLetter, .modifierLetter, .otherLetter]
  | "lc" | "casedletter" => some [.uppercaseLetter, .lowercaseLetter, .titlecaseLetter]
  | "m" | "mark" | "combiningmark" => some [.nonspacingMark, .spacingMark, .enclosingMark]
  | "n" | "number" => some [.decimalNumber, .letterNumber, .otherNumber]
  | "p" | "punctuation" | "punct" =>
    some [.connectorPunctuation, .dashPunctuation, .openPunctuation, .closePunctuation,
      .initialPunctuation, .finalPunctuation, .otherPunctuation]
  | "s" | "symbol" => some [.mathSymbol, .currencySymbol, .modifierSymbol, .otherSymbol]
  | "z" | "separator" => some [.spaceSeparator, .lineSeparator, .paragraphSeparator]
  | "c" | "other" => some [.control, .format, .surrogate, .privateUse, .unassigned]
  | "cntrl" => some [.control]
  | "digit" => some [.decimalNumber]
  | _ => none

/-- The characters of a general category, by a loose name. No character is a surrogate, so that
category has no name. -/
def category? (name : String) : Option CharSet :=
  match name with
  | "any" => some .full
  | "ascii" => some (.range 0 127)
  | "assigned" => some assigned
  | _ =>
    match categoryGroup? name with
    | some categories => some (charsOfAny categories)
    | none =>
      (Category.all.find? fun category => category != .surrogate &&
        (looseName category.shortName == name || looseName category.longName == name)).map
          Category.chars

def script? (name : String) : Option CharSet :=
  match name with
  | "common" | "zyyy" => some common
  | "inherited" | "zinh" | "qaai" => some inherited
  | _ => (scripts.find? (·.names.any (looseName · == name))).map Script.chars

/-- The characters used with a script, shared ones included. -/
def scriptExtensions? (name : String) : Option CharSet :=
  match name with
  | "common" | "zyyy" => some (common.diff sharedByScripts)
  | "inherited" | "zinh" | "qaai" => some (inherited.diff sharedByScripts)
  | _ => (scripts.find? (·.names.any (looseName · == name))).map Script.extended

/-- The set that a bare name stands for. Three short names are categories before all else. -/
def named? (name : String) : Option CharSet :=
  let loose := looseName name
  let isCategory := loose == "cf" || loose == "sc" || loose == "lc"
  match (if isCategory then none else binaryProperty? loose) with
  | some set => some set
  | none => (category? loose).or (script? loose)

/-- The set of the characters for which a property has a value. -/
def valued? (property value : String) : Option CharSet :=
  match looseName property with
  | "generalcategory" | "gc" => category? (looseName value)
  | "script" | "sc" => script? (looseName value)
  | "scriptextensions" | "scx" => scriptExtensions? (looseName value)
  | "age" => age? (looseName value)
  | "graphemeclusterbreak" | "gcb" => graphemeBreak? (looseName value)
  | "wordbreak" | "wb" => wordBreak? (looseName value)
  | "sentencebreak" | "sb" => sentenceBreak? (looseName value)
  | _ => none

end AttrExpr.Unicode
