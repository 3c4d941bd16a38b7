import Windhawk.Js.Builtins

/-! `session_private_namespace.cpp`: the name of the private namespace of a session manager
process, and `Create` and `Open` over the kernel's table of private namespaces. A process
that joins the namespace computes its name from the session manager's process id alone. -/

set_option autoImplicit false

namespace Windhawk.SessionPrivateNamespace

/-! ## `MakeName` -/

/-- `kPrivateNamespaceMaxLen`: the `static_assert` in `MakeName` makes it the length of
`"WindhawkSession1234567890"`. -/
def kPrivateNamespaceMaxLen : Nat := 25

theorem kPrivateNamespaceMaxLen_static_assert :
    kPrivateNamespaceMaxLen + 1 = "WindhawkSession1234567890".length + 1 := rfl

/-- `swprintf_s(buffer, sizeOfBuffer, ...)` given the text its format produces: the buffer
holds the text and the call returns its length when the text fits with its terminator;
otherwise, once the invalid parameter handler returns, the buffer is emptied and the call
returns -1. -/
def swprintf_s (sizeOfBuffer : Nat) (formatted : String) : String × Int :=
  if formatted.length + 1 ≤ sizeOfBuffer then (formatted, formatted.length) else ("", -1)

def formatName (dwSessionManagerProcessId : UInt32) : String :=
  "WindhawkSession" ++ Nat.repr dwSessionManagerProcessId.toNat

/-- `MakeName`: what it leaves in `szPrivateNamespaceName`, and what it returns. -/
def MakeName (dwSessionManagerProcessId : UInt32) : String × Int :=
  swprintf_s (kPrivateNamespaceMaxLen + 1) (formatName dwSessionManagerProcessId)

theorem formatName_length (dwSessionManagerProcessId : UInt32) :
    (formatName dwSessionManagerProcessId).length =
      15 + (Nat.repr dwSessionManagerProcessId.toNat).length := by
  simp [formatName, String.length_append]
  rfl

theorem repr_length_le (dwSessionManagerProcessId : UInt32) :
    (Nat.repr dwSessionManagerProcessId.toNat).length ≤ 10 :=
  Nat.repr_length _ 10 (by decide)
    ((UInt32.toNat_lt_size dwSessionManagerProcessId).trans (by decide))

theorem MakeName_eq (dwSessionManagerProcessId : UInt32) :
    MakeName dwSessionManagerProcessId =
      (formatName dwSessionManagerProcessId,
        ((15 + (Nat.repr dwSessionManagerProcessId.toNat).length : Nat) : Int)) := by
  have fits := repr_length_le dwSessionManagerProcessId
  rw [MakeName, swprintf_s, if_pos (by rw [formatName_length]; unfold kPrivateNamespaceMaxLen; omega),
    formatName_length]

theorem formatName_injective : Function.Injective formatName := by
  intro n m same
  have digits : Nat.repr n.toNat = Nat.repr m.toNat := by
    simpa [formatName, String.ext_iff] using same
  exact UInt32.toNat.inj (Js.repr_injective digits)

/-! ## The kernel's private namespaces -/

inductive Sid where
  | world
  | mediumMandatoryLevel
  deriving DecidableEq, Repr

structure BoundaryDescriptor where
  name : String
  sids : List Sid
  integrityLabels : List Sid
  deriving DecidableEq, Repr

def BuildBoundaryDescriptor (descriptorName : String) : BoundaryDescriptor :=
  ⟨descriptorName, [.world], [.mediumMandatoryLevel]⟩

structure PrivateNamespace where
  boundary : BoundaryDescriptor
  aliasPrefix : String
  deriving DecidableEq, Repr

def CreatePrivateNamespace (namespaces : List PrivateNamespace) (boundary : BoundaryDescriptor)
    (aliasPrefix : String) : Option (PrivateNamespace × List PrivateNamespace) :=
  if ⟨boundary, aliasPrefix⟩ ∈ namespaces then none
  else some (⟨boundary, aliasPrefix⟩, ⟨boundary, aliasPrefix⟩ :: namespaces)

def OpenPrivateNamespace (namespaces : List PrivateNamespace) (boundary : BoundaryDescriptor)
    (aliasPrefix : String) : Option PrivateNamespace :=
  if ⟨boundary, aliasPrefix⟩ ∈ namespaces then some ⟨boundary, aliasPrefix⟩ else none

/-- `Create`; `none` is the thrown error. The name is both the boundary's name and the
alias prefix. -/
def Create (namespaces : List PrivateNamespace) (dwSessionManagerProcessId : UInt32) :
    Option (PrivateNamespace × List PrivateNamespace) :=
  let szPrivateNamespaceName := (MakeName dwSessionManagerProcessId).1
  CreatePrivateNamespace namespaces (BuildBoundaryDescriptor szPrivateNamespaceName)
    szPrivateNamespaceName

def Open (namespaces : List PrivateNamespace) (dwSessionManagerProcessId : UInt32) :
    Option PrivateNamespace :=
  let szPrivateNamespaceName := (MakeName dwSessionManagerProcessId).1
  OpenPrivateNamespace namespaces (BuildBoundaryDescriptor szPrivateNamespaceName)
    szPrivateNamespaceName

def namespaceOf (dwSessionManagerProcessId : UInt32) : PrivateNamespace :=
  ⟨BuildBoundaryDescriptor (formatName dwSessionManagerProcessId),
    formatName dwSessionManagerProcessId⟩

theorem Create_eq (namespaces : List PrivateNamespace) (dwSessionManagerProcessId : UInt32) :
    Create namespaces dwSessionManagerProcessId =
      if namespaceOf dwSessionManagerProcessId ∈ namespaces then none
      else some (namespaceOf dwSessionManagerProcessId,
        namespaceOf dwSessionManagerProcessId :: namespaces) := by
  simp only [Create, MakeName_eq, CreatePrivateNamespace, namespaceOf]

theorem Open_eq (namespaces : List PrivateNamespace) (dwSessionManagerProcessId : UInt32) :
    Open namespaces dwSessionManagerProcessId =
      if namespaceOf dwSessionManagerProcessId ∈ namespaces then
        some (namespaceOf dwSessionManagerProcessId)
      else none := by
  simp only [Open, MakeName_eq, OpenPrivateNamespace, namespaceOf]

theorem namespaceOf_injective : Function.Injective namespaceOf :=
  fun _ _ same => formatName_injective (congrArg PrivateNamespace.aliasPrefix same)

theorem formatName_length_le (dwSessionManagerProcessId : UInt32) :
    (formatName dwSessionManagerProcessId).length ≤ kPrivateNamespaceMaxLen := by
  have := repr_length_le dwSessionManagerProcessId
  rw [formatName_length]
  unfold kPrivateNamespaceMaxLen
  omega

/-- After `Create(n)`, `Open(m)` reaches the namespace it created exactly when `m = n`. -/
theorem Open_of_Create {namespaces after : List PrivateNamespace} {n : UInt32}
    {created : PrivateNamespace} (creates : Create namespaces n = some (created, after))
    (m : UInt32) :
    Open after m = some created ↔ n = m := by
  rw [Create_eq] at creates
  split at creates
  · cases creates
  · obtain ⟨rfl, rfl⟩ := Prod.mk.inj (Option.some.inj creates)
    rw [Open_eq]
    constructor
    · intro opens
      split at opens
      · exact namespaceOf_injective (Option.some.inj opens).symm
      · cases opens
    · rintro rfl
      simp

/-- `MakeName` writes `WindhawkSession` and the decimal digits of the id, which always fit;
distinct ids get distinct names, and after `Create(n)` the call `Open(m)` reaches the
namespace it created exactly when `m = n`. -/
theorem MakeName_fits_and_separates :
    (∀ dwSessionManagerProcessId : UInt32,
      MakeName dwSessionManagerProcessId =
          ("WindhawkSession" ++ Nat.repr dwSessionManagerProcessId.toNat,
            ((15 + (Nat.repr dwSessionManagerProcessId.toNat).length : Nat) : Int)) ∧
        ("WindhawkSession" ++ Nat.repr dwSessionManagerProcessId.toNat).length ≤
          kPrivateNamespaceMaxLen) ∧
    (∀ n m : UInt32, n ≠ m → (MakeName n).1 ≠ (MakeName m).1) ∧
    (∀ (namespaces : List PrivateNamespace) (n m : UInt32) (created : PrivateNamespace)
        (after : List PrivateNamespace),
      Create namespaces n = some (created, after) → (Open after m = some created ↔ n = m)) :=
  ⟨fun id => ⟨MakeName_eq id, formatName_length_le id⟩,
    fun n m different same =>
      different (formatName_injective (by rwa [MakeName_eq, MakeName_eq] at same)),
    fun _ _ m _ _ creates => Open_of_Create creates m⟩

theorem MakeName_fits_and_separates_session :
    (MakeName 4).1 ≠ (MakeName 4294967295).1 ∧
      ∃ created after, Create [] 4294967295 = some (created, after) ∧
        Open after 4294967295 = some created := by
  refine ⟨MakeName_fits_and_separates.2.1 4 4294967295 (by decide),
    namespaceOf 4294967295, [namespaceOf 4294967295], ?_, ?_⟩
  · rw [Create_eq]; simp
  · exact (MakeName_fits_and_separates.2.2 [] _ _ _ _ (by rw [Create_eq]; simp)).mpr rfl

end Windhawk.SessionPrivateNamespace
