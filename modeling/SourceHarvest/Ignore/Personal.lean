import SourceHarvest.Ignore.RuleFile

/-!
# The rules of a person

A person can keep rules for all work trees in one file.  The setting `excludesFile` of Git
names it: first the settings that the environment names for the person are asked, then those
in the home directory, those in the directory of settings and those that the environment
names for the system; without an answer the file lies in the directory of settings.  A value
has no spaces in it, may stand in quotation marks, and is read from the first line that can
be read so.
-/

namespace SourceHarvest.Ignore

/-- Rules for all work trees, and the directory from which they see paths. -/
structure PersonalRules where
  base : Location
  rules : List Rule

namespace PersonalRules

/-! ### Reading a setting -/

/-- A space in settings: settings are bytes, each standing for one character. -/
def isSpace (c : Char) : Bool :=
  c == ' ' || (9 ≤ c.toNat && c.toNat ≤ 13)

/-- Drop the spaces at the start of a text that belong to its first line. -/
def dropSpacesInLine (text : List Char) : List Char :=
  text.dropWhile fun c => isSpace c && c != '\n'

/-- Nothing but spaces comes before the end of the line. -/
def endsLine (text : List Char) : Bool :=
  match dropSpacesInLine text with
  | [] => true
  | c :: _ => c == '\n'

/-- Nothing but spaces and a quotation mark comes before the end of the line. -/
def endsValue (text : List Char) : Bool :=
  endsLine text ||
    match dropSpacesInLine text with
    | '"' :: rest => endsLine rest
    | _ => false

/-- The shortest value at the start of a text that ends a line. -/
def value? : List Char → Option (List Char)
  | [] => none
  | c :: rest =>
      if isSpace c then none
      else if endsValue rest then some [c]
      else (value? rest).map (c :: ·)

/-- The value behind an equals sign, which may stand in quotation marks. -/
def valueBehindMark? (text : List Char) : Option (List Char) :=
  match text.dropWhile isSpace with
  | '"' :: rest => value? (rest.dropWhile isSpace) <|> value? ('"' :: rest)
  | rest => value? rest

/-- The name of the setting. -/
def settingName : List Char := "excludesfile".toList

/-- The value of the setting at the start of a line. -/
def settingAt? (text : List Char) : Option (List Char) :=
  let line := text.dropWhile isSpace
  if (line.take settingName.length).map Char.toLower = settingName then
    match (line.drop settingName.length).dropWhile isSpace with
    | '=' :: rest => valueBehindMark? rest
    | _ => none
  else none

/-- The value of the setting in a text; the flag says whether a line starts here. -/
def setting? (lineStarts : Bool) : List Char → Option (List Char)
  | [] => none
  | c :: rest =>
      (if lineStarts then settingAt? (c :: rest) else none) <|> setting? (c == '\n') rest

/-- The path that the settings in a file name, with the home directory for each tilde. -/
def namedPath? (content : ByteArray) (home : Option String) : Option Path := do
  let value ← setting? true (content.toList.map fun byte => Char.ofNat byte.toNat)
  let text ← String.fromUTF8? ⟨(value.map fun c => UInt8.ofNat c.toNat).toArray⟩
  let expanded := text.toList.flatMap fun c =>
    match c, home with
    | '~', some directory => directory.toList
    | _, _ => [c]
  pure ⟨String.ofList expanded⟩

/-! ### Finding the rules -/

/-- What the environment says about the places of settings. -/
structure Places where
  home : Option String
  settings : Option String
  personFile : Option String
  systemFile : Option String

/-- The variables that say something about the places of settings, in their order. -/
def placeVariables : List String :=
  ["HOME", "XDG_CONFIG_HOME", "GIT_CONFIG_GLOBAL", "GIT_CONFIG_SYSTEM"]

/-- The places that variables name. -/
def Places.ofVariables (value : String → Option String) : Places where
  home := value "HOME"
  settings := value "XDG_CONFIG_HOME"
  personFile := value "GIT_CONFIG_GLOBAL"
  systemFile := value "GIT_CONFIG_SYSTEM"

/-- The directory of a person's settings: the one named for it, else one at home. -/
def settingsDirectory? (places : Places) : Option Path :=
  match places.settings.filter (· != "") with
  | some directory => some ⟨directory⟩
  | none => places.home.map fun directory => Path.join ⟨directory⟩ ⟨".config"⟩

/-- The files that may name the file of rules, in the order in which they are asked. -/
def settingsFiles (places : Places) : List Path :=
  [places.personFile.map Path.mk,
    places.home.map fun directory => Path.join ⟨directory⟩ ⟨".gitconfig"⟩,
    (settingsDirectory? places).map fun directory => directory.join ⟨"git/config"⟩,
    places.systemFile.map Path.mk].filterMap id

/-- The file that holds a person's rules. -/
def file? (tree : FileTree) (places : Places) : Option Path :=
  let named := (settingsFiles places).findSome? fun path =>
    match tree.read path with
    | .ok content => namedPath? content places.home
    | .error _ => none
  named <|> (settingsDirectory? places).map fun directory => directory.join ⟨"git/ignore"⟩

/-- The rules in a file, seen from the working directory. -/
def load (tree : FileTree) (file : Option Path) : PersonalRules :=
  { base := tree.workingDirectory
    rules := (file.map (RuleFile.load tree)).getD [] }

/-! ### Asking the rules -/

/-- The bytes of the path of an entry, without the text of the base where that comes first. -/
def pathFromBase (personal : PersonalRules) (entry : Location) : List UInt8 :=
  let base := (Path.ofNames personal.base).text.toUTF8.toList
  let path := (Path.ofNames entry).text.toUTF8.toList
  if base.isPrefixOf path then
    match path.drop base.length with
    | 47 :: rest => rest
    | rest => rest
  else path

/-- What a person's rules say about an entry. -/
def verdict (personal : PersonalRules) (entry : Location) (isDirectory : Bool) : Verdict :=
  RuleFile.verdict personal.rules (personal.pathFromBase entry) isDirectory

end PersonalRules

end SourceHarvest.Ignore
