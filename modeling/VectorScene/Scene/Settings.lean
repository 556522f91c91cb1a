import VectorScene.Json.Document
import VectorScene.Scene.Error

/-!
# Settings

The settings of a scene are colors and switches. Each one is addressed by its name and takes only
values of its own type. A settings file is an object of JSON text in which any of them may stand;
those that do not have their defaults.

## Main definitions

* `Setting`: the settings
* `Settings`: a value for each
* `Settings.get`, `Settings.set`: one setting read and changed
* `Settings.ofText`, `Settings.render`: the text of a settings file
-/

namespace VectorScene.Scene

/-- The settings of a scene. -/
inductive Setting where
  | backgroundColor
  | showGrid
  | gridColor
  | centerLineGridColor
  | showAxisRings
  | xAxisRingColor
  | yAxisRingColor
  | zAxisRingColor
  | showPerformanceStats
deriving DecidableEq, Repr

namespace Setting

/-- All settings in the order of a settings file. -/
def all : List Setting :=
  [backgroundColor, showGrid, gridColor, centerLineGridColor, showAxisRings, xAxisRingColor,
    yAxisRingColor, zAxisRingColor, showPerformanceStats]

/-- The name of a setting. -/
def name : Setting → String
  | backgroundColor => "backgroundColor"
  | showGrid => "showGrid"
  | gridColor => "gridColor"
  | centerLineGridColor => "centerLineGridColor"
  | showAxisRings => "showAxisRings"
  | xAxisRingColor => "xAxisRingColor"
  | yAxisRingColor => "yAxisRingColor"
  | zAxisRingColor => "zAxisRingColor"
  | showPerformanceStats => "showPerformanceStats"

/-- The setting of a name. -/
def ofName? (name : String) : Option Setting := all.find? (·.name == name)

@[simp] theorem ofName?_name (setting : Setting) : ofName? setting.name = some setting := by
  cases setting <;> decide

/-- All names, sorted. -/
def sortedNames : List String := (all.map name).mergeSort (· ≤ ·)

end Setting

/-- A value for each setting. -/
structure Settings where
  backgroundColor : UInt32 := 0xffffff
  showGrid : Bool := true
  gridColor : UInt32 := 0x888888
  centerLineGridColor : UInt32 := 0x444444
  showAxisRings : Bool := true
  xAxisRingColor : UInt32 := 0xff0000
  yAxisRingColor : UInt32 := 0x00ff00
  zAxisRingColor : UInt32 := 0x0000ff
  showPerformanceStats : Bool := false
deriving DecidableEq, Repr

namespace Settings

/-- A color as a document. -/
def ofColor (color : UInt32) : Json.Document := .integer color.toNat

/-- The value of a setting. -/
def get (s : Settings) : Setting → Json.Document
  | .backgroundColor => ofColor s.backgroundColor
  | .showGrid => .bool s.showGrid
  | .gridColor => ofColor s.gridColor
  | .centerLineGridColor => ofColor s.centerLineGridColor
  | .showAxisRings => .bool s.showAxisRings
  | .xAxisRingColor => ofColor s.xAxisRingColor
  | .yAxisRingColor => ofColor s.yAxisRingColor
  | .zAxisRingColor => ofColor s.zAxisRingColor
  | .showPerformanceStats => .bool s.showPerformanceStats

/-- The number of colors. -/
def colorBound : Nat := UInt32.size

/-- The color that a document stands for. -/
def color : Json.Document → Except Json.Cause UInt32
  | .integer i =>
    if 0 ≤ i ∧ i < colorBound then .ok (UInt32.ofNat i.toNat)
    else .error (.wrongValue (.integer i) .word)
  | d => .error (.wrongType d.found .word)

/-- The switch that a document stands for. -/
def switch : Json.Document → Except Json.Cause Bool
  | .bool b => .ok b
  | d => .error (.wrongType d.found .boolean)

/-- The settings with another value for one of them, which has to be of its type. -/
def set (s : Settings) (setting : Setting) (d : Json.Document) : Except Json.Cause Settings :=
  match setting with
  | .backgroundColor => return { s with backgroundColor := ← color d }
  | .showGrid => return { s with showGrid := ← switch d }
  | .gridColor => return { s with gridColor := ← color d }
  | .centerLineGridColor => return { s with centerLineGridColor := ← color d }
  | .showAxisRings => return { s with showAxisRings := ← switch d }
  | .xAxisRingColor => return { s with xAxisRingColor := ← color d }
  | .yAxisRingColor => return { s with yAxisRingColor := ← color d }
  | .zAxisRingColor => return { s with zAxisRingColor := ← color d }
  | .showPerformanceStats => return { s with showPerformanceStats := ← switch d }

/-- The value of the setting with this name. -/
def getNamed (s : Settings) (name : String) : Except Error Json.Document :=
  match Setting.ofName? name with
  | some setting => .ok (s.get setting)
  | none => .error (.unknownSetting name)

/-- The settings with another value for the one with this name. -/
def setNamed (s : Settings) (name : String) (d : Json.Document) : Except Error Settings :=
  match Setting.ofName? name with
  | some setting => (s.set setting d).mapError (.wrongSetting name)
  | none => .error (.unknownSetting name)

/-! ### Settings files -/

/-- Reads a value for one setting. -/
def readOne (s : Settings) (setting : Setting) (c : Json.Cursor) :
    Except Json.Failure (Settings × Json.Cursor) :=
  let store (d : Json.Document) (c : Json.Cursor) :
      Except Json.Failure (Settings × Json.Cursor) :=
    match s.set setting d with
    | .ok s => .ok (s, c)
    | .error cause => .error (.here cause c)
  match s.get setting with
  | .bool _ => do
    let (b, c) ← Json.boolean c
    store (.bool b) c
  | _ => do
    let (n, c) ← Json.integerBelow colorBound c
    store (.integer n) c

/-- Reads a member of a settings file, which may stand there once. -/
def readMember (gathered : List Setting × Settings) (name : String) (c : Json.Cursor) :
    Except Json.Failure ((List Setting × Settings) × Json.Cursor) :=
  match Setting.ofName? name with
  | none => .error (.here (.unknownField name (Setting.all.map (·.name))) c)
  | some setting =>
    if setting ∈ gathered.1 then .error (.unplaced (.repeatedField name) c)
    else do
      let (_, c) ← Json.colon c
      let (s, c) ← readOne gathered.2 setting c
      return ((setting :: gathered.1, s), c)

/-- Reads the values of settings in their order, until the array ends. -/
def readItems : List Setting → Bool → Settings → Json.Cursor →
    Except Json.Failure (Settings × Json.Cursor)
  | [], _, s, c => .ok (s, c)
  | setting :: rest, first, s, c => do
    let (more, c) ← Json.nextItem .array first c
    if more then
      let (s, c) ← readOne s setting c
      readItems rest false s c
    else return (s, c)

/-- Reads a settings file: an object of settings, or an array of values in their order. -/
def read (c : Json.Cursor) : Except Json.Failure (Settings × Json.Cursor) :=
  let c := c.trim
  if c.rest.head? = some '\x7b' then
    Json.object readMember ([], {}) (fun gathered => .ok gathered.2) c
  else if c.rest.head? = some '[' then
    Json.Container.array.finish (readItems Setting.all true {} c.next)
  else .error (Json.mismatch .settings c)

/-- The settings in the text of a settings file. -/
def ofText (text : String) : Except Json.Error Settings := Json.Reader.run read text

/-- The settings in a settings file, whose text is given if there is such a file. -/
def load : Option String → Except Error Settings
  | none => .error .missingFile
  | some text => (ofText text).mapError .settingsFormat

/-- The text of the value of a setting. -/
def valueText : Json.Document → String
  | .integer i => String.ofList (Json.integerChars i)
  | .bool b => String.ofList (Json.boolChars b)
  | _ => "null"

/-- The text of a settings file, one setting a line. -/
def render (s : Settings) : String :=
  let line (setting : Setting) : String :=
    s!"  \"{setting.name}\": {valueText (s.get setting)}"
  "\x7b\n" ++ Text.joined ",\n" (Setting.all.map line) ++ "\n\x7d"

end Settings

end VectorScene.Scene
