import PartDefs.Luau.Declaration
import PartDefs.Proofs.Resolution.Paths

/-!
# Parameters declared for `Configure`

Whatever a file declares as the parameters of a method `Configure`, nothing comes of it: such
entries are not checked, and the method gets its parameters from the properties of the finished
part.  A file and its bare form, in which these entries are missing, are resolved alike, notices and
faults included.
-/

namespace PartDefs

/-- The method without the parameters that are declared for `Configure`. -/
def MethodDescriptor.bare (name : String) (method : MethodDescriptor) : MethodDescriptor :=
  if name = configureName then { method with arguments := [] } else method

/-- The part without the parameters that are declared for `Configure`. -/
def PartDescriptor.bare (descriptor : PartDescriptor) : PartDescriptor :=
  { descriptor with methods := descriptor.methods.map MethodDescriptor.bare }

/-- All parts without the parameters that are declared for `Configure`. -/
def Descriptors.bare (all : Descriptors) : Descriptors :=
  all.map fun _ descriptor => descriptor.bare

/-! ## One part -/

theorem MethodDescriptor.toMethod_bare (name : String) (method : MethodDescriptor) :
    (method.bare name).toMethod name = method.toMethod name := by
  by_cases configure : name = configureName <;> simp [bare, toMethod, kind, configure]

theorem PartDescriptor.toPart_bare (name : String) (descriptor : PartDescriptor) :
    descriptor.bare.toPart name = descriptor.toPart name := by
  have methods : (descriptor.methods.map MethodDescriptor.bare).map MethodDescriptor.toMethod =
      descriptor.methods.map MethodDescriptor.toMethod := by
    apply OrderedMap.ext
    simp [OrderedMap.map, MethodDescriptor.toMethod_bare]
  simp only [toPart, bare, methods]

theorem PartDescriptor.malformed_bare (descriptor : PartDescriptor) :
    descriptor.bare.malformed = descriptor.malformed := by
  simp only [malformed, bare, OrderedMap.map, List.flatMap_map]
  congr 2
  funext method
  split
  · rfl
  · next other => rw [MethodDescriptor.bare, if_neg other]

namespace Resolution

theorem complete_bare (name : String) (descriptor : PartDescriptor) :
    complete name descriptor.bare = complete name descriptor := by
  funext state
  simp only [complete, ownMembers, PartDescriptor.toPart_bare, PartDescriptor.malformed_bare]
  rfl

end Resolution

/-! ## All parts -/

theorem Descriptors.get?_bare {all : Descriptors} {name : String} {descriptor : PartDescriptor}
    (found : all.get? name = some descriptor) : all.bare.get? name = some descriptor.bare := by
  rw [bare, OrderedMap.get?_map, found, Option.map_some]

theorem Descriptors.get?_bare_of_none {all : Descriptors} {name : String}
    (unknown : all.get? name = none) : all.bare.get? name = none := by
  rw [bare, OrderedMap.get?_map, unknown, Option.map_none]

namespace Resolution

variable {all : Descriptors} {name : String} {descriptor : PartDescriptor} {state : State}

/-- A call in the bare form goes the same way. -/
theorem resolvePart_bare (declared : all.get? name = some descriptor) :
    resolvePart all.bare name descriptor.bare (Descriptors.get?_bare declared) state =
      resolvePart all name descriptor declared state := by
  fun_induction resolvePart all name descriptor declared state with
  | case1 name descriptor declared state resolved =>
      exact resolvePart_of_resolved _ (OrderedMap.contains_iff.1 resolved)
  | case2 name descriptor declared state unresolved again =>
      exact resolvePart_of_again _ (by simpa using unresolved) again
  | case3 name descriptor declared state unresolved fresh alone =>
      have alone : descriptor.bare.parent = none := alone
      rw [resolvePart_of_root _ (by simpa using unresolved) fresh alone, complete_bare]
  | case4 name descriptor declared state unresolved fresh parent extend unknown =>
      exact resolvePart_of_unknown _ (by simpa using unresolved) fresh extend
        (Descriptors.get?_bare_of_none unknown)
  | case5 name descriptor declared state unresolved fresh parent extend above known ih =>
      have extend : descriptor.bare.parent = some parent := extend
      rw [resolvePart_of_known _ (by simpa using unresolved) fresh extend
        (Descriptors.get?_bare known), ih, complete_bare]

theorem resolveEach_bare (names : List String) :
    resolveEach all.bare names = resolveEach all names := by
  induction names with
  | nil =>
      funext state
      rw [resolveEach, resolveEach]
  | cons name names ih =>
      funext state
      cases declared : all.get? name with
      | none => rw [resolveEach_of_unknown declared,
          resolveEach_of_unknown (Descriptors.get?_bare_of_none declared), ih]
      | some descriptor => rw [resolveEach_of_known declared,
          resolveEach_of_known (Descriptors.get?_bare declared), resolvePart_bare declared, ih]

end Resolution

/-- The bare form is resolved alike. -/
theorem Descriptors.resolveTraced_bare (all : Descriptors) :
    all.bare.resolveTraced = all.resolveTraced := by
  have keys : all.bare.keys = all.keys := OrderedMap.keys_map _ _
  rw [resolveTraced, resolveTraced, keys, Resolution.resolveEach_bare]
  simp only [Resolution.ofState, keys]

theorem Descriptors.generate_bare (all : Descriptors) (config : Config) :
    all.bare.generate config = all.generate config := by
  rw [generate, generate, generateTraced, generateTraced, resolveTraced_bare]

end PartDefs
