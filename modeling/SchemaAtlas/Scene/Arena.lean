import SchemaAtlas.Document.Basic
import SchemaAtlas.Scene.Color
import SchemaAtlas.Space.Ray
/-!
# The arena of table groups

Every table is drawn as a group of meshes: a header with the table's name, and for
each field a row with the field's name and type. Groups are known by their place in
the arena. Beside the groups the arena keeps an index, in which a table's name leads
to the last group made for it. A group is highlighted by the glow of its meshes.
-/

namespace SchemaAtlas.Scene

open Space

/-- The colors of the headers, used in turn. -/
def palette : List Nat :=
  [0x3b82f6, 0x10b981, 0xf59e0b, 0xef4444, 0x8b5cf6, 0x06b6d4, 0x84cc16, 0xf97316, 0xec4899,
    0x6366f1]

/-- The header color of the table at a place. -/
def headerColor (index : Nat) : Color := .hex (palette.getD (index % palette.length) 0)

/-- The glow of a selected table. -/
def highlight : Nat := 0x444444

/-- What a mesh shows. -/
inductive MeshRole
  | header
  | tableLabel
  | fieldRow (index : Nat)
  | fieldName (index : Nat)
  | fieldType (index : Nat)
deriving DecidableEq, Repr

/-- Whether a mesh shows a text only. -/
def MeshRole.isLabel : MeshRole → Bool
  | .header | .fieldRow _ => false
  | .tableLabel | .fieldName _ | .fieldType _ => true

/-- A box or a label of a group. -/
structure Mesh where
  role : MeshRole
  /-- Its center, seen from the group's position. -/
  offset : Vec3
  size : Vec3
  color : Color
  glow : Color
  text : Option String
  textColor : Color
  fontSize : Float32

namespace Mesh

/-- A box. -/
def solid (role : MeshRole) (offset size : Vec3) (color : Color) : Mesh :=
  ⟨role, offset, size, color, .hex 0, none, .white, 0⟩

/-- A label of a width and height. -/
def label (role : MeshRole) (offset : Vec3) (width height : Float32) (text : String)
    (textColor : Color) (fontSize : Float32) : Mesh :=
  ⟨role, offset, ⟨width, height, 0.01⟩, .transparent, .hex 0, some text, textColor, fontSize⟩

/-- The space a mesh takes up in a group at some position. -/
def box (m : Mesh) (position : Vec3) : Box := .around (position + m.offset) (m.size.scale 0.5)

/-- The color with the glow. -/
def shaded (m : Mesh) : Color := m.color.lift m.glow

end Mesh

/-- The height of a field's row in a table of `count` fields; the first is highest. -/
def rowHeight (index count : Nat) : Float32 :=
  (count.toFloat32 - index.toFloat32 - 1) * 0.4 - 0.5

/-- The meshes of one table. -/
structure Group where
  table : String
  position : Vec3
  color : Color
  meshes : List Mesh

namespace Group

/-- The row, the name and the type of a field. -/
def fieldMeshes (count index : Nat) (f : Field) : List Mesh :=
  let y := rowHeight index count
  [ .solid (.fieldRow index) ⟨0, y, 0⟩ ⟨8, 0.6, 0.15⟩
      (.hex (if f.isPrimary then 0xffd700 else 0xe5e7eb)),
    .label (.fieldName index) ⟨0, y, 0.08⟩ 7 0.5 f.name (.hex (if f.isPrimary then 0 else 0x333333)) 32,
    .label (.fieldType index) ⟨0, y - 0.15, 0.08⟩ 6 0.3 f.type (.hex 0x666666) 24 ]

/-- The group of a table, at the origin. -/
def ofTable (name : String) (t : Table) (color : Color) : Group :=
  let n := t.fields.length
  let top := n.toFloat32 * 0.4
  { table := name
    position := .zero
    color
    meshes :=
      .solid .header ⟨0, top, 0⟩ ⟨8, 1.5, 0.2⟩ color ::
      .label .tableLabel ⟨0, top, 0.11⟩ 7 1 name .white 48 ::
      t.fields.zipIdx.flatMap fun (f, i) => fieldMeshes n i f }

/-- Gives all meshes the same glow. -/
def setGlow (g : Group) (rgb : Nat) : Group :=
  { g with meshes := g.meshes.map fun m => { m with glow := .hex rgb } }

/-- Whether some mesh glows. -/
def isHighlighted (g : Group) : Bool := g.meshes.any fun m => m.glow != .hex 0

/-- Puts the group at a position. -/
def moveTo (g : Group) (p : Vec3) : Group := { g with position := p }

end Group

/-- The groups of a scene, and where to find them by name. -/
structure Arena where
  groups : List Group := []
  /-- The place of the last group that was made for each table. -/
  places : Catalog Nat := .empty

instance : Inhabited Arena := ⟨{}⟩

/-- The first of the smallest values, with its key. -/
def nearest? {κ δ : Type} (lt : δ → δ → Bool) (hits : List (κ × δ)) : Option (κ × δ) :=
  hits.foldl (fun best h =>
    match best with
    | none => some h
    | some b => if lt h.2 b.2 then some h else some b) none

/-- A mesh met by a ray. -/
structure Hit where
  group : Nat
  mesh : Nat
  distance : Float32

namespace Arena

def size (a : Arena) : Nat := a.groups.length

/-- Adds a group at the end, where its table's name leads from now on. -/
def insert (a : Arena) (g : Group) : Arena where
  groups := a.groups ++ [g]
  places := a.places.put g.table a.size

/-- Takes all groups and names out. -/
def clear (a : Arena) : Arena := { a with groups := [], places := .empty }

/-- The group at a place. -/
def get? (a : Arena) (id : Nat) : Option Group := a.groups[id]?

/-- The place to which a table's name leads. -/
def idOf? (a : Arena) (table : String) : Option Nat := a.places.get? table

/-- The group to which a table's name leads. -/
def byName? (a : Arena) (table : String) : Option Group := (a.idOf? table).bind a.get?

/-- Changes the group at a place. The index stays as it is. -/
def modify (a : Arena) (id : Nat) (f : Group → Group) : Arena := { a with groups := a.groups.modify id f }

/-- All meshes that a ray meets, group by group. -/
def hits (a : Arena) (r : Ray) : List ((Nat × Nat) × Float32) :=
  a.groups.zipIdx.flatMap fun (g, i) =>
    g.meshes.zipIdx.filterMap fun (m, j) =>
      ((m.box g.position).distance? r).map fun t => ((i, j), t)

/-- The nearest mesh that a ray meets; of equally near ones, the first. -/
def pick (a : Arena) (r : Ray) : Option Hit :=
  (nearest? (fun x y => decide (x < y)) (a.hits r)).map fun h => ⟨h.1.1, h.1.2, h.2⟩

end Arena
end SchemaAtlas.Scene
