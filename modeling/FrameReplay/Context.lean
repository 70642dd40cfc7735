/-!
# Execution contexts

A context is one independent lane of packet processing. State that the lanes write lies in one cell
per context, and no lane touches the cell of another.
-/

namespace FrameReplay

structure ContextId where
  id : UInt32
  deriving DecidableEq, Repr, Inhabited

namespace ContextId

/-- Place of the context's cell. -/
def index (ctx : ContextId) : Nat := ctx.id.toNat

/-- The context with a given place. -/
def ofIndex (index : Nat) : ContextId := ⟨UInt32.ofNat index⟩

/-- The name of the context. -/
def name (ctx : ContextId) : String := s!"ctx{ctx.id.toNat}"

end ContextId

/-- One cell per execution context. -/
abbrev PerContext (α : Type) := Array α

namespace PerContext

/-- The cell of a context, if it has one. -/
def get? {α : Type} (cells : PerContext α) (ctx : ContextId) : Option α := cells[ctx.index]?

/-- Changes the cell of a context, if it has one. -/
def update {α : Type} (cells : PerContext α) (ctx : ContextId) (f : α → α) : PerContext α :=
  cells.modify ctx.index f

/-- All cells with their contexts. -/
def entries {α : Type} (cells : PerContext α) : List (ContextId × α) :=
  cells.toList.mapIdx fun i cell => (ContextId.ofIndex i, cell)

/-- The cells as they are shown in diagnostics. -/
def describe {α : Type} (cells : PerContext α) : String :=
  s!"PerContext \x7b contexts: {cells.size} \x7d"

end PerContext

end FrameReplay
