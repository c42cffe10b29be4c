import LayoutParity.Registry

/-!
# The built-in catalogue

The structs that a ray tracer shares between its host code and its shaders. Each is valid and holds
only structs before it, so registering them in order refuses none and gives `Registry.catalogue`
(`Registry.run_catalogue`). A run of the program does so before it sets up its log, which has no
line about these registrations.
-/

namespace LayoutParity

namespace Catalogue

/-- A field of a primitive type. -/
def plain (type : Primitive) (name : String) : Field :=
  ⟨name, .primitive type, none⟩

/-- The eye of the ray tracer. -/
def camera : Schema :=
  ⟨"Camera", ["position", "right", "up", "forward"].map (plain .vector3)⟩

/-- A rectangular light. -/
def areaLight : Schema :=
  ⟨"AreaLight", ["position", "forward", "right", "up", "color"].map (plain .vector3)⟩

/-- What is constant over a frame. -/
def uniforms : Schema :=
  ⟨"Uniforms",
    ["width", "height", "frameIndex", "lightCount"].map (plain .uint)
      ++ [⟨"camera", .struct camera, none⟩]⟩

/-- A sphere, whose packed vectors and interleaved scalars keep host and device in step. -/
def sphere : Schema :=
  ⟨"Sphere",
    [plain .packedVector3 "origin", plain .float "radiusSquared", plain .packedVector3 "color",
      plain .float "radius"]⟩

/-- A triangle with a normal and a colour at each corner. -/
def triangle : Schema :=
  ⟨"Triangle",
    [⟨"normals", .primitive .vector3, some 3⟩, ⟨"colors", .primitive .vector3, some 3⟩]⟩

/-- The structs in the order of their registration. -/
def schemas : List Schema := [camera, areaLight, uniforms, sphere, triangle]

end Catalogue

/-- The registry of the built-in structs. -/
def Registry.catalogue : Registry := ⟨Catalogue.schemas⟩

end LayoutParity
