import OperationSamples.Sample.Scalar
import OperationSamples.Selection.Mark
import OperationSamples.Selection.Members
import OperationSamples.Shape.Basic

/-!
Building shapes from selections.

`Shaper.visit` walks an owner type and its selections once. Every selected field becomes a `Slot`:
the field, its sample, the shapes it refers to and the alternatives it can take. A union field has
one alternative per member, and below it those of the members' own unions; an object field passes on
those of its shape. A shape is put together from its slots. From them it also gets its variants,
each of which fixes one field to one alternative and keeps the others.

The depth limit bounds the walk: below the last level objects have a discriminant only. Shapes that
were built before for the same owner, name, depth and selection set are taken again; the state keeps
them, together with the numbers for marks and identities and the notices so far.
-/

namespace OperationSamples

/-- Why nothing could be built. -/
inductive BuildFault where
  | sample (fault : SampleFault)
  | analysis (fault : AnalysisFault)
  /-- The root of this kind has no name. -/
  | unnamed (kind : ArtifactKind)
deriving DecidableEq, Repr

/-- A shape in which one union field, at the given path, is fixed to a member. -/
structure Variant where
  member : String
  unionPath : String
  shape : Shape
deriving Repr, Inhabited

/-- A shape and its variants. -/
structure Built where
  shape : Shape
  variants : List Variant
deriving Repr, Inhabited

/-- A field under construction, with its sample, the shapes it refers to and the alternatives it can
take. -/
structure Slot where
  field : Field Shape
  value : Sample
  dependencies : List Shape
  alternatives : List Variant
deriving Repr, Inhabited

/-- The shape that is put together from slots. -/
def Shape.ofSlots (id : Nat) (name : ShapeName) (typeName path : String) (depth : Nat)
    (slots : List Slot) : Shape where
  id := id
  name := name
  typeName := typeName
  path := path
  depth := depth
  fields := slots.map Slot.field
  value := Members.ofList (slots.map fun slot => (slot.field.name, slot.value))
  dependencies := slots.flatMap Slot.dependencies

/-- What a shape is remembered by. -/
structure MemoKey where
  owner : String
  name : String
  depth : Nat
deriving DecidableEq, Repr

structure BuildState where
  nextMark : Nat
  nextId : Nat
  memo : List (MemoKey × Option Nat × Built)
  notices : List Notice
deriving Repr

def BuildState.start : BuildState := ⟨0, 0, [], []⟩

abbrev Build := ExceptT BuildFault (StateM BuildState)

namespace Build

def note (notices : List Notice) : Build Unit :=
  modify fun state => { state with notices := state.notices ++ notices }

def report (notice : Notice) : Build Unit := note [notice]

def ofLogged {α : Type} (x : Logged α) : Build α := do
  note x.notices
  return x.value

def ofWalk {α : Type} (walk : Analysis.Walk α) : Build α := do
  match ← ofLogged walk.run with
  | .ok a => return a
  | .error fault => throw (.analysis fault)

def ofSample {α : Type} : Except SampleFault α → Build α
  | .ok a => return a
  | .error fault => throw (.sample fault)

def freshId : Build Nat := modifyGet fun state => (state.nextId, { state with nextId := state.nextId + 1 })

/-- Gives a set and those below it their marks. -/
def marked (set : SelectionSet) : Build SelectionSet :=
  modifyGet fun state =>
    let (set, next) := set.marked state.nextMark
    (set, { state with nextMark := next })

def markedField (info : FieldInfo) : Build FieldInfo :=
  match info.set with
  | none => return info
  | some set => do
    let set ← marked set
    return { info with set := some set }

/-- What was last built under a key, if it was built from the set with the same mark. -/
def known? (key : MemoKey) (mark : Option Nat) : Build (Option Built) := do
  let state ← get
  match state.memo.find? fun entry => entry.1 = key with
  | some (_, m, built) => return if m = mark then some built else none
  | none => return none

def remember (key : MemoKey) (mark : Option Nat) (built : Built) : Build Unit :=
  modify fun state => { state with memo := (key, mark, built) :: state.memo }

def forget : Build Unit := modify fun state => { state with memo := [] }

end Build

/-- What shapes are built with. -/
structure Shaper where
  schema : Schema
  oracle : Oracle
  split : Bool
  maxDepth : Nat
  /-- Whether shapes built before are taken again. -/
  recalls : Bool

/-- A place where a shape is to be built. The relative path starts at the base name, the full path at
the root. -/
structure Site where
  owner : TypeDef
  set : SelectionSet
  name : ShapeName
  base : String
  relative : String
  full : String
  depth : Nat
deriving Repr

namespace Site

def key (site : Site) : MemoKey := ⟨site.owner.name, site.name.qualified, site.depth⟩

def relativeTo (site : Site) (responseKey : String) : String :=
  ShapeName.joinPath [site.relative, responseKey]

def fullTo (site : Site) (responseKey : String) : String :=
  ShapeName.joinPath [site.full, responseKey]

/-- The place of the object that a field selects. -/
def ofField (site : Site) (info : FieldInfo) (set : SelectionSet) : Site where
  owner := info.namedType
  set := set
  name := ShapeName.below site.base (site.relativeTo info.responseKey)
  base := site.base
  relative := site.relativeTo info.responseKey
  full := site.fullTo info.responseKey
  depth := site.depth + 1

/-- The place of a member of the union that a field selects. Its name starts names of its own. -/
def ofMember (site : Site) (info : FieldInfo) (member : TypeDef) (set : SelectionSet) : Site :=
  let union := (ShapeName.below site.base (site.relativeTo info.responseKey)).qualified
  let name := ShapeName.variant union member.name
  { owner := member
    set := set
    name := name
    base := name.qualified
    relative := ""
    full := site.fullTo info.responseKey
    depth := site.depth + 1 }

end Site

namespace Slot

def fieldOf (info : FieldInfo) (content : Content Shape) : Field Shape :=
  ⟨info.responseKey, info.isList, info.isNullable, content⟩

/-- The slot of the discriminant. -/
def discriminant (names : List String) (typeName : String) : Slot where
  field := ⟨typenameField, false, false, .typename names⟩
  value := .str typeName
  dependencies := []
  alternatives := []

/-- An enum field, sampled by the first value of the enum. -/
def ofEnum (info : FieldInfo) (values : List String) : Slot where
  field := fieldOf info (.enum values)
  value := .listIf info.isList ((values.head?.map Sample.str).getD .null)
  dependencies := []
  alternatives := []

def ofScalar (info : FieldInfo) (type : String) (value : Json) : Slot where
  field := fieldOf info (.scalar (some type))
  value := .listIf info.isList (.ofJson value)
  dependencies := []
  alternatives := []

/-- An object field of which only the discriminant is known. -/
def ofMinimal (info : FieldInfo) (names : List String) : Slot where
  field := fieldOf info (.minimal names)
  value := .listIf info.isList (.obj [(typenameField, .str (names.headD ""))])
  dependencies := []
  alternatives := []

/-- An object field. Its alternatives are the variants of its shape. -/
def ofObject (info : FieldInfo) (child : Built) : Slot where
  field := fieldOf info (.shape child.shape)
  value := .listIf info.isList (.factory child.shape.name.factory)
  dependencies := [child.shape]
  alternatives := child.variants.map fun v =>
    { v with unionPath := ShapeName.joinPath [info.responseKey, v.unionPath] }

/-- The alternatives that one member of a union field gives: itself, then its variants. -/
def memberAlternatives (info : FieldInfo) (member : String) (built : Built) : List Variant :=
  let key := info.responseKey ++ "As" ++ member
  ⟨member, info.responseKey, built.shape⟩ :: built.variants.map fun v =>
    { v with unionPath := ShapeName.joinPath [key, v.unionPath] }

/-- A union field, sampled by its first member. -/
def ofUnion (info : FieldInfo) (members : List (String × Built)) : Slot where
  field := fieldOf info (.union (members.map fun m => m.2.shape))
  value := .listIf info.isList
    ((members.head?.map fun m => Sample.factory m.2.shape.name.factory).getD .null)
  dependencies := members.map fun m => m.2.shape
  alternatives := members.flatMap fun m => memberAlternatives info m.1 m.2

/-- A slot that is fixed to an alternative. -/
def fixed (slot : Slot) (alternative : Variant) : Slot where
  field := { slot.field with content := .shape alternative.shape }
  value := .listIf slot.field.isList (.factory alternative.shape.name.factory)
  dependencies := [alternative.shape]
  alternatives := []

/-- The slots of a shape in which the one at a position is fixed to an alternative. -/
def fixedAt (slots : List Slot) (position : Nat) (alternative : Variant) : List Slot :=
  slots.modify position fun slot => slot.fixed alternative

/-- All alternatives with the positions of their slots. -/
def placedAlternatives (slots : List Slot) : List (Nat × Variant) :=
  slots.zipIdx.flatMap fun (slot, position) => slot.alternatives.map fun v => (position, v)

end Slot

namespace Shaper

/-- The names a value of a type can carry, never empty. -/
def typenames (shaper : Shaper) (t : TypeDef) : List String :=
  if t.isAbstract && !(shaper.schema.possibleTypes t).isEmpty then shaper.schema.possibleTypes t
  else [t.name]

/-- The implementation that was folded into the shape, or else the first possible type. -/
def represented (typenames folded : List String) : String :=
  (folded.find? fun t => typenames.contains t).getD (typenames.headD "")

def minimalSlot (shaper : Shaper) (info : FieldInfo) : Slot :=
  Slot.ofMinimal info (shaper.typenames info.namedType)

def leafSlot (shaper : Shaper) (site : Site) (info : FieldInfo) : Build Slot :=
  if info.kind = .enum then return Slot.ofEnum info info.namedType.enumValues
  else do
    let scalar := info.namedType.name
    let place : ScalarPlace :=
      ⟨scalar, site.owner.name, site.name.qualified ++ "." ++ info.responseKey⟩
    let value ← Build.ofSample (shaper.oracle.sample place)
    return Slot.ofScalar info (scalarType scalar) value

/-- How the shape at a place is built. -/
abbrev Visit := Site → Build Built

/-- Builds the shapes of the members of a union field. -/
def visitMembers (visit : Visit) (site : Site) (info : FieldInfo) :
    List MemberSelection → Build (List (String × Built))
  | [] => return []
  | m :: rest => do
    let set ← Build.marked ⟨none, m.selections⟩
    let built ← visit (site.ofMember info m.member set)
    let others ← visitMembers visit site info rest
    return (m.member.name, built) :: others

def unionSlot (shaper : Shaper) (visit : Visit) (site : Site) (info : FieldInfo) : Build Slot := do
  let members ← Build.ofLogged (MemberSelection.expand shaper.schema info)
  if members.isEmpty then
    Build.report (.noMembers (site.fullTo info.responseKey) info.namedType.name)
    return shaper.minimalSlot info
  else
    let built ← visitMembers visit site info members
    return Slot.ofUnion info built

/-- The slot of a field. Without a way to build shapes below, objects are minimal. -/
def slotOf (shaper : Shaper) (below : Option Visit) (site : Site) (info : FieldInfo) :
    Build Slot :=
  match info.category, below, info.set with
  | .leaf, _, _ => shaper.leafSlot site info
  | .union, some visit, _ => shaper.unionSlot visit site info
  | .object, some visit, some set => do
    let child ← visit (site.ofField info set)
    return Slot.ofObject info child
  | _, _, _ => return shaper.minimalSlot info

def slotsOf (shaper : Shaper) (below : Option Visit) (site : Site) :
    List FieldInfo → Build (List Slot)
  | [] => return []
  | info :: rest => do
    let slot ← shaper.slotOf below site info
    let others ← shaper.slotsOf below site rest
    return slot :: others

/-- A new shape at a place. -/
def assemble (site : Site) (name : ShapeName) (typeName : String) (slots : List Slot) :
    Build Shape := do
  let id ← Build.freshId
  return Shape.ofSlots id name typeName site.full site.depth slots

/-- The name of a variant: the path of the union is told when there are several. -/
def variantName (site : Site) (onePath : Bool) (v : Variant) : ShapeName :=
  if onePath then ShapeName.variant site.name.qualified v.member
  else ShapeName.variantAt site.name.qualified v.member v.unionPath

def variantsOf (site : Site) (typeName : String) (slots : List Slot) (onePath : Bool) :
    List (Nat × Variant) → Build (List Variant)
  | [] => return []
  | (position, v) :: rest => do
    let shape ←
      assemble site (variantName site onePath v) typeName (Slot.fixedAt slots position v)
    let others ← variantsOf site typeName slots onePath rest
    return { v with shape := shape } :: others

/-- Whether all alternatives belong to the same union field. -/
def haveOnePath (alternatives : List (Nat × Variant)) : Bool :=
  match alternatives with
  | [] => false
  | (_, v) :: rest => rest.all fun (_, w) => w.unionPath == v.unionPath

/-- Builds the shape at a place, given how shapes below it are built. -/
def construct (shaper : Shaper) (below : Option Visit) (site : Site) : Build Built := do
  Build.report (.shapeStarted site.name.qualified site.owner.name site.depth)
  let analysis ←
    Build.ofWalk (Analysis.ofSet shaper.schema shaper.split site.owner (some site.set))
  let infos ← analysis.fields.mapM Build.markedField
  let names := shaper.typenames site.owner
  let typeName := represented names analysis.folded
  let others ← shaper.slotsOf below site infos
  let slots := Slot.discriminant names typeName :: others
  let shape ← assemble site site.name typeName slots
  let alternatives := Slot.placedAlternatives slots
  let variants ← variantsOf site typeName slots (haveOnePath alternatives) alternatives
  return ⟨shape, variants⟩

/-- Takes a shape that was built before, or builds it and remembers it. -/
def recallOr (shaper : Shaper) (site : Site) (build : Build Built) : Build Built := do
  let known ← if shaper.recalls then Build.known? site.key site.set.mark else pure none
  match known with
  | some built => return built
  | none => do
    let built ← build
    Build.remember site.key site.set.mark built
    return built

/-- Builds the shape at a place, with `remaining` levels below it. -/
def visit (shaper : Shaper) : Nat → Visit
  | 0, site => shaper.recallOr site (shaper.construct none site)
  | remaining + 1, site =>
    shaper.recallOr site (shaper.construct (some (shaper.visit remaining)) site)

/-- Builds the shape of a root. What was built for other roots is forgotten. -/
def visitRoot (shaper : Shaper) (owner : TypeDef) (selections : List Selection) (name : ShapeName)
    (base : String) : Build Built := do
  Build.forget
  let set ← Build.marked ⟨none, selections⟩
  shaper.visit shaper.maxDepth ⟨owner, set, name, base, "", "", 0⟩

end Shaper

end OperationSamples
