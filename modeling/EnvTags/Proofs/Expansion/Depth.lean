import EnvTags.Proofs.Dependency.Faults
import EnvTags.Proofs.Expansion.KeySpace
import Mathlib.Data.List.Chain

/-!
# How deep expansions go

An expansion within a depth may end with the error that the depth is not enough.
Then a greater depth is needed; with any other result a greater depth gives the
same. Along nested calls the keys being expanded are different and come from a
stock fixed in advance, so the size of that stock is always enough. With that
depth `expand` satisfies the equation of the recursion without any bound.
-/

namespace EnvTags

/-! ## Lookups and the depth -/

namespace Dependency

theorem scanPackage_ne_tooDeep
    (system : FileSystem)
    (cache : ScanCache)
    (directory : Path)
    (package : String) :
    (scanPackage system cache directory package).1 ≠ .error .tooDeep :=
  fun failed => isFault_of_scanPackage (Prod.ext failed rfl)

theorem Resolver.locate_ne_tooDeep
    (resolver : Resolver)
    (system : FileSystem)
    (importPath : String) :
    resolver.locate system importPath ≠ .error .tooDeep := by
  unfold Resolver.locate
  split
  · simp
  · simp only
    split
    · simp
    · split
      · simp
      · exact fun failed => isFault_of_locateInCache failed

theorem Resolver.resolve_ne_tooDeep
    (resolver : Resolver)
    (system : FileSystem)
    (graph : Graph)
    (cache : ScanCache)
    (package name : String)
    (imports : List Import) :
    (resolver.resolve system graph cache package name imports).1 ≠
      .error .tooDeep := by
  have step := resolver.resolve_step system graph cache package name imports
  generalize resolver.resolve system graph cache package name imports = result
    at step ⊢
  cases step with
  | unlocatable imported bound unknown error failed =>
      have located := resolver.locate_ne_tooDeep system imported.path
      simpa [failed] using located
  | unreadable imported bound unknown directory located error next failed =>
      have scanned := scanPackage_ne_tooDeep system cache directory imported.path
      simpa [failed] using scanned
  | unmatched | inGraph | unlocated | undeclared | declared => simp

end Dependency

namespace Expansion

theorem nestedRecord_ne_tooDeep
    (setting : Setting)
    (state : State)
    (record : Record)
    (field : Field) :
    (nestedRecord setting state record field).1 ≠ .error .tooDeep := by
  have step := nestedRecord_step setting state record field
  generalize nestedRecord setting state record field = result at step ⊢
  cases step with
  | unreadable name unqualified unknown error cache failed =>
      have scanned := Dependency.scanPackage_ne_tooDeep setting.system
        state.cache record.directory record.package
      simpa [failed] using scanned
  | unresolvable package name qualified error cache failed =>
      have resolved := setting.resolver.resolve_ne_tooDeep setting.system
        setting.graph state.cache package name record.imports
      simpa [failed] using resolved
  | unnamed | inGraph | declared | undeclared | resolved | unresolved => simp

/-! ## A depth that is enough -/

/-- A row of fields goes too deep only if one of its nested records does. -/
theorem expandFields_ne_tooDeep
    {setting : Setting}
    (invariant : Invariant setting)
    {expander : Expander}
    (kept : invariant.KeptBy expander)
    (keepsActive : expander.KeepsActive)
    {record : Record}
    (expandable : invariant.ofRecord record)
    (namePrefix : String)
    (fields : List Field)
    (state : State)
    (known : invariant.OfCache state.cache)
    (nested : ∀ next other target, next.active = state.active →
      invariant.OfCache next.cache → invariant.ofRecord target →
      target.key ∉ state.active →
        (expander next other target).1 ≠ .error .tooDeep) :
    (expandFields setting expander namePrefix record fields state).1 ≠
      .error .tooDeep := by
  induction fields generalizing state with
  | nil => simp [expandFields]
  | cons field fields inductionHypothesis =>
      have first : (expandField setting expander namePrefix record field
          state).1 ≠ .error .tooDeep := by
        have lookups := nestedRecord_ne_tooDeep setting state record field
        have unchanged := nestedRecord_active setting state record field
        have step :=
          expandField_step setting expander namePrefix record field state
        generalize expandField setting expander namePrefix record field state =
          result at step ⊢
        cases step with
        | untagged undescribed => simp
        | leaf descriptor isLeaf => simp
        | failed descriptor isContainer error next lookup =>
            simpa [lookup] using lookups
        | missing descriptor isContainer next lookup => simp
        | cycle descriptor isContainer target next lookup active => simp
        | nested descriptor isContainer target next lookup fresh =>
            rw [lookup] at unchanged
            obtain ⟨knownNext, found⟩ :=
              invariant.of_nestedRecord known expandable lookup
            exact nested next _ target unchanged knownNext (found target rfl)
              (unchanged ▸ fresh)
      have knownNext := Invariant.ofCache_expandField kept expandable namePrefix
        field known
      have sameActive := expandField_active keepsActive setting namePrefix record
        field state
      unfold expandFields
      rcases result : expandField setting expander namePrefix record field state
        with ⟨error | entries, next⟩
      · simpa [result] using first
      · rw [result] at knownNext sameActive
        have rest := inductionHypothesis next knownNext (by rwa [sameActive])
        rcases others : expandFields setting expander namePrefix record fields
          next with ⟨error | more, last⟩
        · simpa [others] using rest
        · simp [others]

/-- A depth above the number of free keys is enough. -/
theorem expandWithin_ne_tooDeep
    {setting : Setting}
    {space : KeySpace}
    (covers : space.Covers setting)
    {depth : Nat}
    {state : State}
    {record : Record}
    (known : covers.invariant.OfCache state.cache)
    (holds : space.Holds record)
    (enough : space.free (state.enter record.key).active < depth)
    (namePrefix : String) :
    (expandWithin setting depth state namePrefix record).1 ≠
      .error .tooDeep := by
  induction depth generalizing state namePrefix record with
  | zero => omega
  | succ depth inductionHypothesis =>
      -- Each nested record takes one more key from the stock.
      have nested : ∀ next other target,
          next.active = (state.enter record.key).active →
          covers.invariant.OfCache next.cache →
          covers.invariant.ofRecord target →
          target.key ∉ (state.enter record.key).active →
            (expandWithin setting depth next other target).1 ≠
              .error .tooDeep := by
        intro next other target sameActive knownNext holdsTarget fresh
        rw [← sameActive] at fresh enough
        have fewer := KeySpace.free_enter_lt holdsTarget.key_mem fresh
        exact inductionHypothesis knownNext holdsTarget (by omega) other
      have fields := expandFields_ne_tooDeep covers.invariant
        (covers.invariant.keptBy_expandWithin depth)
        (expandWithin_keepsActive setting depth) holds namePrefix record.fields
        (state.enter record.key) known nested
      simpa [expandWithin] using fields

/-- The number of keys is a depth that is enough. -/
theorem expandWithin_ne_tooDeep_of_length_keys_le
    {setting : Setting}
    {space : KeySpace}
    (covers : space.Covers setting)
    {depth : Nat}
    {state : State}
    {record : Record}
    (known : covers.invariant.OfCache state.cache)
    (holds : space.Holds record)
    (enough : space.keys.length ≤ depth)
    (namePrefix : String) :
    (expandWithin setting depth state namePrefix record).1 ≠
      .error .tooDeep := by
  have fewer := KeySpace.free_enter_lt_length_keys holds.key_mem state
  exact expandWithin_ne_tooDeep covers known holds (by omega) namePrefix

/-! ## Greater depths -/

/-- Another expander gives the same wherever this one does not go too deep. -/
def Expander.Extends (other expander : Expander) : Prop :=
  ∀ (state : State) (namePrefix : String) (record : Record),
    (expander state namePrefix record).1 ≠ .error .tooDeep →
      other state namePrefix record = expander state namePrefix record

theorem expandField_extends
    {expander other : Expander}
    (extending : other.Extends expander)
    {setting : Setting}
    {namePrefix : String}
    {record : Record}
    {field : Field}
    {state : State}
    (enough : (expandField setting expander namePrefix record field state).1 ≠
      .error .tooDeep) :
    expandField setting other namePrefix record field state =
      expandField setting expander namePrefix record field state := by
  unfold expandField expandContainer at enough ⊢
  cases described : setting.scheme.describe field.tag with
  | none => rfl
  | some descriptor =>
      simp only [described] at enough ⊢
      split
      · rfl
      · rename_i isContainer
        rw [if_neg isContainer] at enough
        rcases lookup : nestedRecord setting state record field with
          ⟨error | _ | target, next⟩
        · rfl
        · rfl
        · simp only [lookup] at enough ⊢
          split
          · rfl
          · rename_i fresh
            rw [if_neg fresh] at enough
            exact extending next _ target enough

theorem expandFields_extends
    {expander other : Expander}
    (extending : other.Extends expander)
    {setting : Setting}
    {namePrefix : String}
    {record : Record}
    {fields : List Field}
    {state : State}
    (enough : (expandFields setting expander namePrefix record fields state).1 ≠
      .error .tooDeep) :
    expandFields setting other namePrefix record fields state =
      expandFields setting expander namePrefix record fields state := by
  induction fields generalizing state with
  | nil => rfl
  | cons field fields inductionHypothesis =>
      have first : (expandField setting expander namePrefix record field
          state).1 ≠ .error .tooDeep := by
        intro tooDeep
        apply enough
        rcases result : expandField setting expander namePrefix record field
          state with ⟨error | entries, next⟩
        · rw [result] at tooDeep
          simpa [expandFields, result] using tooDeep
        · simp [result] at tooDeep
      rw [expandFields, expandFields, expandField_extends extending first]
      rcases result : expandField setting expander namePrefix record field state
        with ⟨error | entries, next⟩
      · rfl
      · have rest : (expandFields setting expander namePrefix record fields
            next).1 ≠ .error .tooDeep := by
          intro tooDeep
          apply enough
          rcases others : expandFields setting expander namePrefix record fields
            next with ⟨error | more, last⟩
          · rw [others] at tooDeep
            simpa [expandFields, result, others] using tooDeep
          · simp [others] at tooDeep
        simp only [inductionHypothesis rest]

/-- One more level changes nothing where the depth is enough. -/
theorem expandWithin_succ_extends
    (setting : Setting)
    (depth : Nat) :
    (expandWithin setting (depth + 1)).Extends (expandWithin setting depth) := by
  induction depth with
  | zero =>
      intro state namePrefix record enough
      exact absurd rfl enough
  | succ depth inductionHypothesis =>
      intro state namePrefix record enough
      have fields := expandFields_extends inductionHypothesis enough
      rw [expandWithin, fields]
      rfl

/-- A greater depth changes nothing where the depth is enough. -/
theorem expandWithin_extends_of_le
    (setting : Setting)
    {depth other : Nat}
    (le : depth ≤ other) :
    (expandWithin setting other).Extends (expandWithin setting depth) := by
  induction le with
  | refl =>
      intro state namePrefix record _
      rfl
  | step _ inductionHypothesis =>
      intro state namePrefix record enough
      have same := inductionHypothesis state namePrefix record enough
      rw [← same] at enough ⊢
      exact expandWithin_succ_extends setting _ state namePrefix record enough

/-- Two depths that are enough give the same. -/
theorem expandWithin_eq_of_ne_tooDeep
    {setting : Setting}
    {left right : Nat}
    {state : State}
    {namePrefix : String}
    {record : Record}
    (leftEnough : (expandWithin setting left state namePrefix record).1 ≠
      .error .tooDeep)
    (rightEnough : (expandWithin setting right state namePrefix record).1 ≠
      .error .tooDeep) :
    expandWithin setting left state namePrefix record =
      expandWithin setting right state namePrefix record := by
  rcases Nat.le_total left right with le | le
  · exact (expandWithin_extends_of_le setting le state namePrefix record
      leftEnough).symm
  · exact expandWithin_extends_of_le setting le state namePrefix record
      rightEnough

/-! ## Expansions without a bound -/

/-- The stock known in advance is enough for an expansion. -/
theorem expand_ne_tooDeep
    (setting : Setting)
    (state : State)
    (namePrefix : String)
    (record : Record) :
    (expand setting state namePrefix record).1 ≠ .error .tooDeep := by
  have enough := (KeySpace.length_keys_ofRoots setting state [record]).le
  exact expandWithin_ne_tooDeep_of_length_keys_le
    (KeySpace.covers_ofRoots setting state [record])
    (KeySpace.ofCache_ofRoots setting state [record])
    (KeySpace.holds_of_mem_roots List.mem_cons_self) enough namePrefix

/-- Every depth that is enough gives the expansion. -/
theorem expand_extends_expandWithin
    (setting : Setting)
    (depth : Nat) :
    (expand setting).Extends (expandWithin setting depth) := by
  intro state namePrefix record enough
  exact expandWithin_eq_of_ne_tooDeep
    (expand_ne_tooDeep setting state namePrefix record) enough

/-- The expansion of a record is that of its fields, where nested records are
expanded in the same way. -/
theorem expand_eq
    (setting : Setting)
    (state : State)
    (namePrefix : String)
    (record : Record) :
    expand setting state namePrefix record =
      ((expandFields setting (expand setting) namePrefix record record.fields
          (state.enter record.key)).1,
        (expandFields setting (expand setting) namePrefix record record.fields
          (state.enter record.key)).2.leave record.key) := by
  have enough := expand_ne_tooDeep setting state namePrefix record
  unfold expand at enough
  cases depth : keyCount setting state [record] with
  | zero =>
      rw [depth] at enough
      exact absurd rfl enough
  | succ below =>
      rw [depth] at enough
      have fields := expandFields_extends
        (expand_extends_expandWithin setting below) enough
      rw [fields, expand, depth]
      rfl

/-- With one bound for all of them, some records are expanded as they are
without a bound. -/
theorem expandAll_expandWithin
    {setting : Setting}
    {space : KeySpace}
    (covers : space.Covers setting)
    {depth : Nat}
    (enough : space.keys.length ≤ depth)
    {records : List Record}
    (holds : ∀ record ∈ records, space.Holds record)
    {state : State}
    (known : covers.invariant.OfCache state.cache) :
    expandAll (expandWithin setting depth) records state =
        expandAll (expand setting) records state ∧
      (expandAll (expand setting) records state).1 ≠ .error .tooDeep := by
  induction records generalizing state with
  | nil => simp [expandAll]
  | cons record records inductionHypothesis =>
      have holdsRecord := holds record List.mem_cons_self
      have first := expandWithin_ne_tooDeep_of_length_keys_le covers known
        holdsRecord enough ""
      have same := expand_extends_expandWithin setting depth state "" record first
      have knownNext := covers.invariant.keptBy_expandWithin depth state ""
        record known holdsRecord
      rw [← same] at first knownNext
      rw [expandAll, expandAll, ← same]
      rcases expanded : expand setting state "" record with
        ⟨error | entries, next⟩
      · rw [expanded] at first
        simpa using first
      · rw [expanded] at knownNext
        obtain ⟨sameRest, rest⟩ := inductionHypothesis
          (fun other inside => holds other (List.mem_cons_of_mem _ inside))
          knownNext
        simp only [sameRest, true_and]
        rcases others : expandAll (expand setting) records next with
          ⟨error | more, last⟩
        · rw [others] at rest
          simpa using rest
        · simp

/-! ## Chains of calls -/

/-- One call is made for a field of the record of another one. -/
def Call.NestsIn (setting : Setting) (caller callee : Call) : Prop :=
  ∃ field, caller.Nests setting field callee

/-- A nested call has fewer free keys than its caller. -/
theorem Call.NestsIn.free_lt
    {setting : Setting}
    {space : KeySpace}
    (covers : space.Covers setting)
    {caller callee : Call}
    (nests : caller.NestsIn setting callee)
    (known : covers.invariant.OfCache caller.state.cache)
    (holds : space.Holds caller.record) :
    space.free callee.entered.active < space.free caller.entered.active := by
  obtain ⟨field, nests⟩ := nests
  have holdsCallee : space.Holds callee.record :=
    (nests.invariant covers.invariant known holds).2
  obtain ⟨-, expanded, -, lookup, fresh⟩ := nests
  rename_i before after depth entries middle next descriptor target
  have sameMiddle : middle.active = caller.entered.active := by
    have same := expandFields_active (expandWithin_keepsActive setting depth)
      setting caller.namePrefix caller.record before caller.entered
    rwa [expanded] at same
  have sameNext : next.active = middle.active := by
    have same := nestedRecord_active setting middle caller.record field
    rwa [lookup] at same
  rw [← sameMiddle, ← sameNext]
  exact KeySpace.free_enter_lt holdsCallee.key_mem fresh

/-- A chain of nested calls is not longer than there are free keys. -/
theorem Call.length_le_free
    {setting : Setting}
    {space : KeySpace}
    (covers : space.Covers setting)
    {call : Call}
    {calls : List Call}
    (chain : (call :: calls).IsChain (Call.NestsIn setting))
    (known : covers.invariant.OfCache call.state.cache)
    (holds : space.Holds call.record) :
    calls.length ≤ space.free call.entered.active := by
  induction calls generalizing call with
  | nil => exact Nat.zero_le _
  | cons callee calls inductionHypothesis =>
      obtain ⟨nests, rest⟩ := List.isChain_cons_cons.mp chain
      have fewer := nests.free_lt covers known holds
      obtain ⟨field, nested⟩ := nests
      obtain ⟨knownCallee, holdsCallee⟩ :=
        nested.invariant covers.invariant known holds
      have bound := inductionHypothesis rest knownCallee holdsCallee
      rw [List.length_cons]
      omega

/-- An expansion ends, within the size of the stock of keys known in advance.
It never answers that a bound was reached, no greater bound changes it, it
satisfies the equation of the recursion without a bound, and the calls that are
open at any time are at most as many as the keys. -/
theorem expand_terminates
    (setting : Setting)
    (state : State)
    (namePrefix : String)
    (record : Record) :
    (expand setting state namePrefix record).1 ≠ .error .tooDeep ∧
      (∀ depth, keyCount setting state [record] ≤ depth →
        expandWithin setting depth state namePrefix record =
          expand setting state namePrefix record) ∧
      expand setting state namePrefix record =
        ((expandFields setting (expand setting) namePrefix record record.fields
            (state.enter record.key)).1,
          (expandFields setting (expand setting) namePrefix record record.fields
            (state.enter record.key)).2.leave record.key) ∧
      ∀ calls : List Call,
        (⟨state, namePrefix, record⟩ :: calls).IsChain (Call.NestsIn setting) →
          calls.length + 1 ≤ keyCount setting state [record] := by
  have enough := expand_ne_tooDeep setting state namePrefix record
  refine ⟨enough, ?_, expand_eq setting state namePrefix record, ?_⟩
  · intro depth le
    exact expandWithin_extends_of_le setting le state namePrefix record enough
  · intro calls chain
    have holds : (KeySpace.ofRoots setting state [record]).Holds record :=
      KeySpace.holds_of_mem_roots List.mem_cons_self
    have bound := Call.length_le_free
      (KeySpace.covers_ofRoots setting state [record]) chain
      (KeySpace.ofCache_ofRoots setting state [record]) holds
    have fewer := KeySpace.free_enter_lt_length_keys holds.key_mem state
    rw [KeySpace.length_keys_ofRoots] at fewer
    exact Nat.lt_of_le_of_lt bound fewer

end Expansion
end EnvTags
