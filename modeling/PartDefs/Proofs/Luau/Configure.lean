import PartDefs.Proofs.Resolution.Bare
import PartDefs.Proofs.Resolution.Members

/-!
# `Configure` in declarations

A part that declares `Configure`, or one of whose ancestors does, is declared with a method of this
name that takes the part itself and a record of its writable properties.  The record is made from
the finished part: it has the properties of all ancestors, each as the nearest of them declares it,
whichever of them declared `Configure`.
-/

namespace PartDefs

namespace Luau

/-- A type declaration with the given members. -/
def typeText (config : Config) (name : String) (members : List String) : String :=
  "type " ++ name ++ " = \x7b\n" ++ config.indent ++
    (",\n" ++ config.indent).intercalate members ++ "\n\x7d"

/-- The member `Configure` of a part with the given properties. -/
def configureText (config : Config) (name : String) (properties : OrderedMap String String)
    (returns : String) : String :=
  let writable := properties.entries.filter (·.1 ∉ config.readonlyProperties)
  "Configure: (self: " ++ name ++ ", properties: \x7b" ++
    ", ".intercalate (writable.map fun property => property.1 ++ ": " ++ property.2 ++ "?") ++
    "\x7d) -> " ++ returns

/-- The names of the methods that the parts of a line declare, where they first occur. -/
def methodNames (line : List Link) : List String :=
  (line.flatMap (·.2.methods.keys)).eraseDups

/-- A declaration in which `Configure` stands at its place among the methods.  Its record lists the
properties of the line that are not read-only, and all properties are members. -/
inductive Configures (config : Config) (name : String) (line : List Link) : String → Prop where
  | text {properties : OrderedMap String String} {nearest : MethodDescriptor}
      {before after : List String} {connect : String} :
      Overlays (line.map (·.2.properties)) (fun _ declared type => type = declared) properties →
      line.findSome? (·.2.methods.get? configureName) = some nearest →
      before.length = (methodNames line).idxOf configureName →
      before.length + 1 + after.length = (methodNames line).length →
      Configures config name line (typeText config name
        (before ++ configureText config name properties (nearest.returns.getD config.unitType) ::
          after ++ properties.entries.map (fun property => property.1 ++ ": " ++ property.2) ++
          [connect]))

theorem declaration_eq (config : Config) (part : Part) :
    declaration config part = typeText config part.name (members config part) := by
  have opening : " = \x7b\n" = " = " ++ ("\x7b" ++ "\n") := by simp
  have closing : "\n\x7d" = "\n" ++ "\x7d" := by simp
  rw [declaration, typeText, braced, opening, closing]
  simp only [String.append_assoc]

theorem methodMember_configure (config : Config) (part : Part) (returns : Option String) :
    methodMember config part configureName ⟨returns, .configure⟩ =
      configureText config part.name part.properties (returns.getD config.unitType) := by
  have writable (property : String × String) : (!config.isReadonly property.1) =
      decide (property.1 ∉ config.readonlyProperties) := by
    simp [Config.isReadonly]
  unfold methodMember methodParams configureRecord configureText
  simp only [writable]
  generalize returns.getD config.unitType = type
  apply String.toList_inj.1
  simp [typed, signature, selfParam, braced, configureName]

/-- A part that offers `Configure` is declared with it. -/
theorem configures_declaration {part : Part} {name : String} {line : List Link} (config : Config)
    (collects : part.Collects name line)
    (offered : ∃ link ∈ line, configureName ∈ link.2.methods.keys) :
    Configures config name line (declaration config part) := by
  have found : (line.findSome? (·.2.methods.get? configureName)).isSome = true := by
    obtain ⟨link, listed, offers⟩ := offered
    obtain ⟨method, own⟩ := OrderedMap.exists_get?_of_mem_keys offers
    exact List.findSome?_isSome_iff.2 ⟨link, listed, Option.isSome_of_eq_some own⟩
  obtain ⟨nearest, first⟩ := Option.isSome_iff_exists.1 found
  obtain ⟨⟨returns, kind⟩, present, yields⟩ := collects.methods.values configureName nearest
    (by rw [List.findSome?_map]; exact first)
  obtain rfl : returns = nearest.returns := yields.returns
  obtain rfl : kind = .configure := yields.configure.2 rfl
  obtain ⟨before, after, entries⟩ := List.append_of_mem (OrderedMap.get?_eq_some_iff.1 present)
  have keys : part.methods.keys = methodNames line := by
    rw [collects.methods.keys, List.flatMap_map]
    rfl
  have split : methodNames line =
      before.map Prod.fst ++ configureName :: after.map Prod.fst := by
    rw [← keys, OrderedMap.keys, entries]
    simp
  have fresh : configureName ∉ before.map Prod.fst := by
    have distinct := part.methods.nodup_keys
    rw [keys, split] at distinct
    exact fun early => (List.nodup_append.1 distinct).2.2 _ early _ List.mem_cons_self rfl
  have methods :
      part.methods.entries.map (fun method => methodMember config part method.1 method.2) =
        before.map (fun method => methodMember config part method.1 method.2) ++
        configureText config name part.properties (nearest.returns.getD config.unitType) ::
        after.map fun method => methodMember config part method.1 method.2 := by
    rw [entries, List.map_append, List.map_cons, methodMember_configure, collects.named]
  rw [declaration_eq, collects.named, members, methods]
  refine .text collects.properties first ?_ ?_
  · rw [split, List.idxOf_append, if_neg fresh, List.idxOf_cons_self]
    simp
  · rw [split]
    simp
    omega

end Luau

/-- What is generated does not depend on the parameters declared for `Configure`, and a part that
offers `Configure` is declared with it as its finished properties say. -/
theorem Descriptors.generate_configure (config : Config) :
    (∀ first second : Descriptors, first.bare = second.bare →
      first.generate config = second.generate config) ∧
    ∀ (all : Descriptors) (generated : Generated), all.generate config = .ok generated →
      generated.partNames = all.keys ∧
      ∀ name ∈ all.keys, ∃ line, all.Lineage name line ∧
        ∃ text, generated.declarations.get? name = some text ∧
          ((∃ link ∈ line, configureName ∈ link.2.methods.keys) →
            Luau.Configures config name line text) := by
  constructor
  · intro first second same
    rw [← first.generate_bare, same, second.generate_bare]
  · intro all generated success
    rw [Descriptors.generate_eq] at success
    cases resolved : all.resolve with
    | error fault =>
        rw [resolved] at success
        cases success
    | ok resolution =>
        rw [resolved] at success
        obtain rfl := Except.ok.inj success
        refine ⟨?_, fun name declared => ?_⟩
        · exact (OrderedMap.keys_map _ _).trans (Descriptors.keys_of_resolve_eq_ok resolved)
        · obtain ⟨line, settled, result⟩ :=
            Descriptors.exists_settled_of_resolve_eq_ok resolved declared
          obtain ⟨descriptor, ancestors, -, rfl⟩ := settled.lineage.exists_cons
          refine ⟨_, settled.lineage, _, ?_,
            Luau.configures_declaration config (collects_inheritAlong settled.wellFormed)⟩
          simp [Resolution.declare, result]

/-- The lamp family with parameters declared for `Configure`, one of which is no single pair. -/
def Descriptors.wordyLamps : Descriptors :=
  lampFamily.insert "Device"
    { parent := some "Base"
      methods := .ofList
        [("Configure", { arguments := [.ofList [("level", "number")], ∅] }),
          ("Switch", { returns := some "boolean" })] }

/-- The lamp has the method `Configure` of its parent, with its own name and properties. -/
theorem Descriptors.lampFamily_configures :
    wordyLamps.bare = lampFamily.bare ∧ wordyLamps.generate {} = lampFamily.generate {} ∧
      ∃ generated, lampFamily.generate {} = .ok generated ∧
        ∃ line text, lampFamily.Lineage "Lamp" line ∧
          generated.declarations.get? "Lamp" = some text ∧
          Luau.Configures {} "Lamp" line text := by
  have same : wordyLamps.bare = lampFamily.bare := by decide +kernel
  have success : lampFamily.generate {} = .ok (Resolution.lampFamily.declare {}) := by
    decide +kernel
  obtain ⟨alike, whole⟩ := generate_configure {}
  obtain ⟨-, declared⟩ := whole lampFamily _ success
  obtain ⟨line, lineage, text, found, configures⟩ := declared "Lamp" (by decide +kernel)
  refine ⟨same, alike _ _ same, _, success, line, text, lineage, found, configures ?_⟩
  have extend : lampFamily.Extends "Lamp" "Device" := ⟨_, rfl, rfl⟩
  have offers : (lampFamily.get? "Device").all fun device =>
      decide (configureName ∈ device.methods.keys) := by decide +kernel
  obtain ⟨link, rest, rfl, above⟩ := lineage.parent extend
  obtain ⟨device, others, declares, rfl⟩ := above.exists_cons
  rw [declares] at offers
  exact ⟨_, List.mem_cons_of_mem _ List.mem_cons_self, of_decide_eq_true offers⟩

end PartDefs
