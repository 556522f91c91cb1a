import VectorScene.Command.Handler

/-!
# Changes of the scene

The changes that the built-in commands make. A change says what is made from which points and
options; running it takes names and random numbers, changes the scene, and gives the result.

## Main definitions

* `Sketch`: a vector before it has a name
* `Change`: the changes
* `Change.run`: what a change does
-/

namespace VectorScene.Command

open VectorScene.Geometry Scene

/-- A vector before it has a name. -/
structure Sketch where
  start : Point
  tip : Point
  options : Scene.Vector.Options := {}

/-- The changes of the built-in commands. -/
inductive Change where
  /-- A vector under the next generated name. -/
  | resultVector (sketch : Sketch)
  /-- Vectors under the next generated names, all of them or none. -/
  | resultVectors (sketches : List Sketch)
  /-- Vectors of random direction. -/
  | randomVectors (count : Nat) (length : Float) (unit : Bool) (mode : RenderMode)
  /-- A matrix under the next generated name. -/
  | resultMatrix (transform : Transform)
  | newVector (name : String) (sketch : Sketch)
  | newMatrix (name : String) (transform : Transform)
  /-- A matrix in the place of the one that its name stands for, or a new one. -/
  | putMatrix (name : String) (transform : Transform)
  /-- A vector in the place of another; the flag says whether menus have to be made anew. -/
  | replaceVector (key : String) (name : String) (sketch : Sketch) (menu : Bool)
  | replaceMatrix (key : String) (name : String) (transform : Transform)
      (options : Scene.Matrix.Options)
  | destroyVector (key : String)
  | destroyMatrix (key : String)
  | showVector (key : String) (visible : Bool)
  | showMatrix (key : String) (visible : Bool)
  | clear
  /-- The scene with the vectors of its first layout only. -/
  | reset
  | camera (camera : Camera) (result : Value)
  | settings (settings : Settings) (result : Value)

namespace Sketch

/-- The vector of a sketch, whose color is drawn if the options leave it open. -/
def draw (s : Sketch) (name : String) (draws : Draws) : Scene.Vector × Draws :=
  Scene.Vector.draw name s.start s.tip s.options draws

end Sketch

namespace Workspace

/-- What came of a change that has a result if it succeeds, and needs a new menu then. -/
def finish (w : Workspace) (changed : Except Scene.Error Scene.State) (result : Value) :
    Except Scene.Error Value × Workspace :=
  match changed with
  | .ok scene => (.ok result, { w with scene := scene.requestMenu })
  | .error fault => (.error fault, w)

/-- Adds a vector. -/
def addVector (w : Workspace) (name : String) (sketch : Sketch) :
    Except Scene.Error Value × Workspace :=
  let (v, draws) := sketch.draw name w.draws
  let w := { w with draws }
  w.finish (w.scene.createVector v) (.string name)

/-- Adds a matrix. -/
def addMatrix (w : Workspace) (name : String) (transform : Transform) :
    Except Scene.Error Value × Workspace :=
  w.finish (w.scene.createMatrix (.build name transform {})) (.string name)

/-- The first vector whose name is taken, by one of the scene or by one before it. -/
def clash? (scene : Scene.State) : List String → List Scene.Vector → Option String
  | _, [] => none
  | before, v :: rest =>
    if scene.vectors.contains v.name || before.contains v.name then some v.name
    else clash? scene (before ++ [v.name]) rest

/-- Adds vectors one after another, up to the first whose name is taken. -/
def createAll : List Scene.Vector → Scene.State → Except Scene.Error Unit × Scene.State
  | [], scene => (.ok (), scene)
  | v :: rest, scene =>
    match scene.createVector v with
    | .ok scene => createAll rest scene
    | .error fault => (.error fault, scene)

/-- Adds vectors, all of them or none. -/
def addVectors (w : Workspace) (vectors : List Scene.Vector) :
    Except Scene.Error Value × Workspace :=
  match clash? w.scene [] vectors with
  | some name => (.error (.duplicateName .vector name), w)
  | none =>
    match createAll vectors w.scene with
    | (.error fault, scene) => (.error fault, { w with scene })
    | (.ok (), scene) =>
      let scene := if vectors.isEmpty then scene else scene.requestMenu
      (.ok (Value.ofStrings (vectors.map (·.name))), { w with scene })

/-- Gives sketches the next generated names. -/
def nameResults : List Sketch → Workspace → List Scene.Vector × Workspace
  | [], w => ([], w)
  | sketch :: rest, w =>
    let (name, scene) := w.scene.nextResultName
    let (v, draws) := sketch.draw name w.draws
    let (vs, w) := nameResults rest ⟨scene, draws⟩
    (v :: vs, w)

/-! ### Random vectors -/

/-- A full turn in radians. -/
def turn : Float := 6.283185307179586

/-- The tip of a random vector from the origin. Two angles and a distance are drawn, and the length
too unless it is one. -/
def randomTip (length : Float) (unit : Bool) (draws : Draws) : Point × Draws :=
  let (u, draws) := draws.next
  let theta := lerp 0.0 turn u
  let (u, draws) := draws.next
  let phi := lerp 0.0 turn u
  let (u, draws) := draws.next
  let distance := (lerp 0.0 (length * 0.5) u).sqrt
  let p : Point :=
    ⟨distance * phi.sin * theta.cos, distance * phi.sin * theta.sin, distance * phi.cos⟩
  let direction := p.direction?.getD .zero
  if unit then (direction, draws)
  else
    let (u, draws) := draws.next
    (direction.scale (u * length), draws)

/-- Random vectors under the next generated names. The color of each is drawn before its tip. -/
def nameRandoms (length : Float) (unit : Bool) (mode : RenderMode) :
    Nat → Workspace → List Scene.Vector × Workspace
  | 0, w => ([], w)
  | count + 1, w =>
    let (u, draws) := w.draws.next
    let (tip, draws) := randomTip length unit draws
    let (name, scene) := w.scene.nextRandomName
    let v := Scene.Vector.build name .zero tip (.ofUnit u) { mode := some mode }
    let (vs, w) := nameRandoms length unit mode count ⟨scene, draws⟩
    (v :: vs, w)

/-! ### The first layout -/

/-- A labelled vector from the origin. -/
def layoutVector (name : String) (tip : Point) (color : Color) (mode : RenderMode) :
    Scene.Vector :=
  .build name .zero tip color { mode := some mode, labelled := some true }

/-- The vectors of the first layout: the three axes and the origin. -/
def layout : List Scene.Vector :=
  [layoutVector "left" .axisX 0xff0000 .vector, layoutVector "up" .axisY 0x00ff00 .vector,
    layoutVector "forward" .axisZ 0x0000aa .vector, layoutVector "origin" .zero 0x333333 .waypoint]

end Workspace

/-- What a change does. -/
def Change.run (change : Change) (w : Workspace) : Except Scene.Error Value × Workspace :=
  match change with
  | resultVector sketch =>
    let (name, scene) := w.scene.nextResultName
    { w with scene }.addVector name sketch
  | resultVectors sketches =>
    let (vectors, w) := Workspace.nameResults sketches w
    w.addVectors vectors
  | randomVectors count length unit mode =>
    let (vectors, w) := Workspace.nameRandoms length unit mode count w
    w.addVectors vectors
  | resultMatrix transform =>
    let (name, scene) := w.scene.nextResultName
    { w with scene }.addMatrix name transform
  | newVector name sketch => w.addVector name sketch
  | newMatrix name transform => w.addMatrix name transform
  | putMatrix name transform =>
    let m := Scene.Matrix.build name transform {}
    let changed :=
      if w.scene.matrices.contains name then w.scene.replaceMatrix name m
      else w.scene.createMatrix m
    w.finish changed (.string name)
  | replaceVector key name sketch menu =>
    let (v, draws) := sketch.draw name w.draws
    let w := { w with draws }
    match w.scene.replaceVector key v with
    | .ok scene =>
      (.ok (.string name), { w with scene := if menu then scene.requestMenu else scene })
    | .error fault => (.error fault, w)
  | replaceMatrix key name transform options =>
    w.finish (w.scene.replaceMatrix key (.build name transform options)) (.string name)
  | destroyVector key =>
    match w.scene.destroyVector key with
    | some (v, scene) => w.finish (.ok scene) (.string v.name)
    | none => (.error (.notFound .vector key), w)
  | destroyMatrix key =>
    match w.scene.destroyMatrix key with
    | some (m, scene) => w.finish (.ok scene) (.string m.name)
    | none => (.error (.notFound .matrix key), w)
  | showVector key visible =>
    match w.scene.showVector key visible with
    | some scene => w.finish (.ok scene) (.bool visible)
    | none => (.error (.notFound .vector key), w)
  | showMatrix key visible =>
    match w.scene.showMatrix key visible with
    | some scene => w.finish (.ok scene) (.bool visible)
    | none => (.error (.notFound .matrix key), w)
  | clear => (.ok .absent, { w with scene := w.scene.clear })
  | reset =>
    match Workspace.createAll Workspace.layout w.scene.clear with
    | (.ok (), scene) => (.ok .absent, { w with scene })
    | (.error fault, scene) => (.error fault, { w with scene })
  | camera c result => (.ok result, { w with scene := { w.scene with camera := c } })
  | settings s result => (.ok result, { w with scene := { w.scene with settings := s } })

end VectorScene.Command
