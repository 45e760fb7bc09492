import RowQuery.Pattern.CharSet
import RowQuery.Repertoire.Age
import RowQuery.Repertoire.Break

/-!
# Character properties by name

Names are compared without case, blanks, hyphens, underscores and a leading `is`. A name alone is that
of a binary property, of a general category or of a script; a property with several values is named
together with one of them.
-/

namespace RowQuery.Pattern

/-- A property name in the form in which names are compared. The name `isc` is kept, so that it does
not become that of a category. -/
def plainName (name : String) : String :=
  let (marked, cs) :=
    match name.toList with
    | i :: s :: rest =>
      if i.toLower = 'i' && s.toLower = 's' then (true, rest) else (false, i :: s :: rest)
    | cs => (false, cs)
  let isPlain := fun c : Char => c.toNat < 128 && c != ' ' && c != '-' && c != '_'
  let plain := (cs.filter isPlain).map Char.toLower
  if marked && plain = ['c'] then "isc" else String.ofList plain

/-- Whether one of the names in `names`, separated by `=`, is `name`. -/
def isNamed (names : String) (name : String) : Bool :=
  (names.splitOn "=").any fun n => plainName n = name

/-- What stands under a name in a list of names and values. -/
def named? {α : Type} (entries : List (String × α)) (name : String) : Option α :=
  (entries.find? fun entry => isNamed entry.1 name).map (·.2)

open Text.Category in
/-- General categories and groups of them, each with its names. Surrogates are no characters, so that
there is no set of them. -/
def categoryNames : List (String × List Text.Category) := [
  ("L=Letter", [Lu, Ll, Lt, Lm, Lo]), ("LC=Cased_Letter", [Lu, Ll, Lt]),
  ("Lu=Uppercase_Letter", [Lu]), ("Ll=Lowercase_Letter", [Ll]), ("Lt=Titlecase_Letter", [Lt]),
  ("Lm=Modifier_Letter", [Lm]), ("Lo=Other_Letter", [Lo]),
  ("M=Mark=Combining_Mark", [Mn, Mc, Me]),
  ("Mn=Nonspacing_Mark", [Mn]), ("Mc=Spacing_Mark", [Mc]), ("Me=Enclosing_Mark", [Me]),
  ("N=Number", [Nd, Nl, No]),
  ("Nd=Decimal_Number=digit", [Nd]), ("Nl=Letter_Number", [Nl]), ("No=Other_Number", [No]),
  ("P=Punctuation=punct", [Pc, Pd, Ps, Pe, Pi, Pf, Po]),
  ("Pc=Connector_Punctuation", [Pc]), ("Pd=Dash_Punctuation", [Pd]),
  ("Ps=Open_Punctuation", [Ps]), ("Pe=Close_Punctuation", [Pe]),
  ("Pi=Initial_Punctuation", [Pi]), ("Pf=Final_Punctuation", [Pf]),
  ("Po=Other_Punctuation", [Po]),
  ("S=Symbol", [Sm, Sc, Sk, So]),
  ("Sm=Math_Symbol", [Sm]), ("Sc=Currency_Symbol", [Sc]), ("Sk=Modifier_Symbol", [Sk]),
  ("So=Other_Symbol", [So]),
  ("Z=Separator", [Zs, Zl, Zp]),
  ("Zs=Space_Separator", [Zs]), ("Zl=Line_Separator", [Zl]), ("Zp=Paragraph_Separator", [Zp]),
  ("C=Other", [Cc, Cf, Cs, Co, Cn]),
  ("Cc=Control=cntrl", [Cc]), ("Cf=Format", [Cf]), ("Co=Private_Use", [Co]),
  ("Cn=Unassigned", [Cn])]

def categorySet? (name : String) : Option CharSet :=
  match name with
  | "any" => some .any
  | "ascii" => some (.range '\x00' '\x7f')
  | "assigned" => some (.having fun c => Repertoire.category c ≠ .Cn)
  | name =>
    (named? categoryNames name).map fun categories =>
      .having fun c => categories.contains (Repertoire.category c)

def binarySet? (name : String) : Option CharSet :=
  (named? Repertoire.binaryProperties name).map .having

/-- Characters whose script has the name. -/
def scriptSet? (name : String) : Option CharSet :=
  (named? Repertoire.scripts name).map fun code => .having fun c => Repertoire.script c = code

/-- Characters that the script with the name uses. -/
def scriptUseSet? (name : String) : Option CharSet :=
  (named? Repertoire.scripts name).map fun code => .having (Repertoire.usedIn code)

/-- Characters that were there in the edition of the standard with the name. -/
def ageSet? (name : String) : Option CharSet :=
  (Repertoire.Edition.all.find? fun e => isNamed e.names name).map fun e =>
    .having (Repertoire.presentIn e)

/-- Set for a name alone. The names `cf`, `sc` and `lc` are those of categories, though properties with
several values have them too. -/
def propertySet? (name : String) : Option CharSet :=
  let n := plainName name
  binarySet? n <|> categorySet? n <|> scriptSet? n

/-- Set for a property and its value. -/
def valueSet? (property value : String) : Option CharSet :=
  let v := plainName value
  match plainName property with
  | "gc" | "generalcategory" => categorySet? v
  | "sc" | "script" => scriptSet? v
  | "scx" | "scriptextensions" => scriptUseSet? v
  | "age" => ageSet? v
  | "gcb" | "graphemeclusterbreak" => (named? Repertoire.clusterClasses v).map .having
  | "wb" | "wordbreak" => (named? Repertoire.wordClasses v).map .having
  | "sb" | "sentencebreak" => (named? Repertoire.sentenceClasses v).map .having
  | _ => none

end RowQuery.Pattern
