import Dsvd.Registry.Register

/-! # The registry under any sequence of calls

Two exported functions change the registry: `Register`, and `RegisterHDKeyID`, which a
library may also call directly to add non-standard HD version bytes. Over any run of such
calls from any registry, each query answers exactly for what the run's successful calls
stored: an address ID or a bech32 prefix is known iff it was known at the start or a
successful `Register` stored it, and `HDPrivateKeyToPublicKeyID` returns the very slice of the
last successful write of the private ID, falling back to the start. A failed call writes
nothing. Each result is a step lemma for one call and an induction over the run.
-/

namespace Dsvd

/-- The calls that change the registry. -/
inductive RegistryCall where
  | register (params : Params) (paramsAddr : Nat)
  | registerHDKeyID (hdPublicKeyID : Slice) (hdPrivateKeyID : List UInt8)

/-- One call, with the error it returns. -/
def RegistryCall.apply (reg : Registry) : RegistryCall → Registry × Option RegistryError
  | .register params paramsAddr => Dsvd.register reg params paramsAddr
  | .registerHDKeyID hdPublicKeyID hdPrivateKeyID =>
    Dsvd.registerHDKeyID reg hdPublicKeyID hdPrivateKeyID

/-- Make the calls in turn, keeping each call's error. -/
def runCalls (reg : Registry) : List RegistryCall → Registry × List (Option RegistryError)
  | [] => (reg, [])
  | call :: rest =>
    let step := call.apply reg
    let run := runCalls step.1 rest
    (run.1, step.2 :: run.2)

/-- The pair a call stores in `hdPrivToPubKeyIDs` when it succeeds. -/
def RegistryCall.hdWrite : RegistryCall → Option (KeyID × Slice)
  | .register params paramsAddr => some (params.hdPrivateKeyID, hdPublicKeyIDSlice paramsAddr)
  | .registerHDKeyID hdPublicKeyID hdPrivateKeyID =>
    if h : hdPublicKeyID.len ≠ 4 ∨ hdPrivateKeyID.length ≠ 4 then none
    else some (⟨hdPrivateKeyID, by omega⟩, hdPublicKeyID)

/-- The pairs the successful calls of a run stored, in order. -/
def hdWrites (calls : List RegistryCall) (errs : List (Option RegistryError)) :
    List (KeyID × Slice) :=
  (calls.zip errs).filterMap fun x => if x.2 = none then x.1.hdWrite else none

/-- A call of the run registered `params` and succeeded. -/
def RegisteredIn (calls : List RegistryCall) (errs : List (Option RegistryError))
    (params : Params) : Prop :=
  ∃ x ∈ calls.zip errs, x.2 = none ∧ ∃ paramsAddr, x.1 = .register params paramsAddr

/-! ## The HD key map -/

theorem lookup_filter_ne {β : Type} (key k : KeyID) (hk : k ≠ key) :
    ∀ l : List (KeyID × β), (l.filter (·.1 != key)).lookup k = l.lookup k
  | [] => rfl
  | (a, b) :: l => by
    by_cases ha : a = key
    · subst ha
      rw [List.filter_cons_of_neg (by simp), lookup_filter_ne a k hk l, List.lookup_cons,
        show (k == a) = false from beq_false_of_ne hk]
    · rw [List.filter_cons_of_pos (by simpa using ha), List.lookup_cons, List.lookup_cons,
        lookup_filter_ne key k hk l]

/-- The assignment `hdPrivToPubKeyIDs[key] = pub` answers `pub` for `key` and leaves every
other key as it was. -/
theorem lookup_assign {β : Type} (l : List (KeyID × β)) (key k : KeyID) (pub : β) :
    ((key, pub) :: l.filter (·.1 != key)).lookup k = ([(key, pub)].lookup k).or (l.lookup k) := by
  by_cases hk : k = key
  · subst hk; simp
  · rw [List.lookup_cons, List.lookup_cons, show (k == key) = false from beq_false_of_ne hk]
    exact lookup_filter_ne key k hk l

/-- One call: a successful one stores its pair, a failed one nothing. -/
theorem lookup_apply (reg : Registry) (call : RegistryCall) (k : KeyID) :
    (call.apply reg).1.hdPrivToPubKeyIDs.lookup k =
      (((if (call.apply reg).2 = none then call.hdWrite else none).toList).lookup k).or
        (reg.hdPrivToPubKeyIDs.lookup k) := by
  cases call with
  | register params paramsAddr =>
    rcases register_cases reg params paramsAddr with ⟨-, h⟩ | ⟨-, h⟩ <;>
      simp only [RegistryCall.apply, h, RegistryCall.hdWrite, if_true, reduceCtorEq, if_false,
        Option.toList_some, Option.toList_none, List.lookup_nil, Option.none_or]
    exact lookup_assign _ _ _ _
  | registerHDKeyID pub priv =>
    simp only [RegistryCall.apply, registerHDKeyID, RegistryCall.hdWrite]
    by_cases h : pub.len ≠ 4 ∨ priv.length ≠ 4
    · simp [h]
    · simp only [dif_neg h, ↓reduceIte, Option.toList_some]
      exact lookup_assign _ _ _ _

/-- Over a run, the map answers with the last successful write of the key, and otherwise as it
did at the start. -/
theorem lookup_runCalls (k : KeyID) :
    ∀ (reg : Registry) (calls : List RegistryCall),
      (runCalls reg calls).1.hdPrivToPubKeyIDs.lookup k =
        ((hdWrites calls (runCalls reg calls).2).reverse.lookup k).or
          (reg.hdPrivToPubKeyIDs.lookup k)
  | _, [] => rfl
  | reg, call :: rest => by
    simp only [runCalls, hdWrites, List.zip_cons_cons, List.filterMap_cons]
    rw [lookup_runCalls k _ rest, lookup_apply, hdWrites]
    split_ifs
    · cases call.hdWrite <;>
        simp only [List.reverse_cons, List.lookup_append, Option.or_assoc, Option.toList_some,
          Option.toList_none, List.lookup_nil, Option.none_or]
    · rfl

/-- **Last write wins.** After any run of `Register` and `RegisterHDKeyID` calls from any
registry, `HDPrivateKeyToPublicKeyID(id)` fails with `ErrUnknownHDKeyID` when `id` is not four
bytes long; otherwise it returns the slice that the last successful call stored for `id`, the
caller's own and not a copy, and when there is none it answers as it did before the run. -/
theorem hdPrivateKeyToPublicKeyID_runCalls (reg : Registry) (calls : List RegistryCall)
    (id : List UInt8) :
    hdPrivateKeyToPublicKeyID (runCalls reg calls).1 id =
      if h : id.length = 4 then
        match (hdWrites calls (runCalls reg calls).2).reverse.lookup ⟨id, h⟩ with
        | some pub => .ok pub
        | none => hdPrivateKeyToPublicKeyID reg id
      else .error .unknownHDKeyID := by
  by_cases h : id.length = 4
  · rw [dif_pos h]
    unfold hdPrivateKeyToPublicKeyID
    rw [dif_neg (not_not.mpr h), dif_neg (not_not.mpr h), lookup_runCalls]
    cases (hdWrites calls (runCalls reg calls).2).reverse.lookup ⟨id, h⟩ <;> rfl
  · rw [dif_neg h]
    exact dif_pos h

/-- One `Params` variable at address 7 registered for the main network, then reused for
another magic and private key ID: both private key IDs answer with the variable's array. -/
example :
    hdPrivateKeyToPublicKeyID (runCalls {} [.register mainNetParams 7, .register
        { mainNetParams with net := 1, hdPrivateKeyID := ⟨[1, 2, 3, 4], rfl⟩ } 7]).1
        mainNetParams.hdPrivateKeyID.val = .ok (hdPublicKeyIDSlice 7) ∧
    hdPrivateKeyToPublicKeyID (runCalls {} [.register mainNetParams 7, .register
        { mainNetParams with net := 1, hdPrivateKeyID := ⟨[1, 2, 3, 4], rfl⟩ } 7]).1
        [1, 2, 3, 4] = .ok (hdPublicKeyIDSlice 7) := ⟨rfl, rfl⟩

/-! ## The set-like maps -/

section
variable {α : Type} [BEq α] [LawfulBEq α] (sel : Registry → List α) (val : Params → α)

/-- One call on a set-like map that a successful `Register` extends by `val params` and that
`RegisterHDKeyID` does not touch. -/
theorem mem_apply_of
    (hins : ∀ reg params paramsAddr, params.net ∉ reg.registeredNets →
      sel (register reg params paramsAddr).1 = (sel reg).insert (val params))
    (hhd : ∀ reg pub priv, sel (registerHDKeyID reg pub priv).1 = sel reg)
    (reg : Registry) (call : RegistryCall) (x : α) :
    x ∈ sel (call.apply reg).1 ↔ x ∈ sel reg ∨ ((call.apply reg).2 = none ∧
      ∃ params, (∃ paramsAddr, call = .register params paramsAddr) ∧ val params = x) := by
  cases call with
  | register params paramsAddr =>
    rcases register_cases reg params paramsAddr with ⟨hin, h⟩ | ⟨hin, h⟩
    · simp [RegistryCall.apply, h]
    · rw [RegistryCall.apply, hins reg params paramsAddr hin, h]
      simp only [List.mem_insert_iff, true_and, RegistryCall.register.injEq, exists_and_left,
        exists_eq', and_true, exists_eq_left', eq_comm]
      exact Or.comm
  | registerHDKeyID pub priv => simp [RegistryCall.apply, hhd]

theorem mem_runCalls_of
    (hins : ∀ reg params paramsAddr, params.net ∉ reg.registeredNets →
      sel (register reg params paramsAddr).1 = (sel reg).insert (val params))
    (hhd : ∀ reg pub priv, sel (registerHDKeyID reg pub priv).1 = sel reg) (x : α) :
    ∀ (reg : Registry) (calls : List RegistryCall), x ∈ sel (runCalls reg calls).1 ↔
      x ∈ sel reg ∨ ∃ params, RegisteredIn calls (runCalls reg calls).2 params ∧ val params = x
  | _, [] => by simp [runCalls, RegisteredIn]
  | reg, call :: rest => by
    simp only [runCalls, RegisteredIn, List.zip_cons_cons, List.mem_cons]
    rw [mem_runCalls_of hins hhd x _ rest, mem_apply_of sel val hins hhd]
    simp only [RegisteredIn]
    constructor
    · rintro ((h | ⟨he, p, ⟨a, rfl⟩, hp⟩) | ⟨p, ⟨y, hy, hy2, hy1⟩, hp⟩)
      · exact .inl h
      · exact .inr ⟨p, ⟨_, .inl rfl, he, a, rfl⟩, hp⟩
      · exact .inr ⟨p, ⟨y, .inr hy, hy2, hy1⟩, hp⟩
    · rintro (h | ⟨p, ⟨y, rfl | hy, hy2, hy1⟩, hp⟩)
      · exact .inl (.inl h)
      · exact .inl (.inr ⟨hy2, p, hy1, hp⟩)
      · exact .inr ⟨p, ⟨y, hy, hy2, hy1⟩, hp⟩

end

theorem registerHDKeyID_sets (reg : Registry) (pub : Slice) (priv : List UInt8) :
    (registerHDKeyID reg pub priv).1.pubKeyHashAddrIDs = reg.pubKeyHashAddrIDs ∧
    (registerHDKeyID reg pub priv).1.scriptHashAddrIDs = reg.scriptHashAddrIDs ∧
    (registerHDKeyID reg pub priv).1.bech32SegwitPrefixes = reg.bech32SegwitPrefixes ∧
    (registerHDKeyID reg pub priv).1.bech32MwebPrefixes = reg.bech32MwebPrefixes := by
  unfold registerHDKeyID; split_ifs <;> exact ⟨rfl, rfl, rfl, rfl⟩

theorem register_sets {reg : Registry} {params : Params} {paramsAddr : Nat}
    (hin : params.net ∉ reg.registeredNets) :
    (register reg params paramsAddr).1.pubKeyHashAddrIDs =
        reg.pubKeyHashAddrIDs.insert params.pubKeyHashAddrID ∧
    (register reg params paramsAddr).1.scriptHashAddrIDs =
        reg.scriptHashAddrIDs.insert params.scriptHashAddrID ∧
    (register reg params paramsAddr).1.bech32SegwitPrefixes =
        reg.bech32SegwitPrefixes.insert (params.bech32HRPSegwit ++ "1") ∧
    (register reg params paramsAddr).1.bech32MwebPrefixes =
        reg.bech32MwebPrefixes.insert (params.bech32HRPMweb ++ "1") := by
  rcases register_cases reg params paramsAddr with ⟨h, -⟩ | ⟨-, h⟩
  · exact absurd h hin
  · rw [h]; exact ⟨rfl, rfl, rfl, rfl⟩

/-- **The queries are exact.** After any run of `Register` and `RegisterHDKeyID` calls from any
registry, `IsPubKeyHashAddrID` and `IsScriptHashAddrID` hold exactly for the IDs known at the
start or stored by a successful `Register` of the run, and `IsBech32SegwitPrefix(s)` and
`IsBech32MwebPrefix(s)` exactly when they held at the start or the lowered `s` is the
human-readable part such a call stored, followed by `1`, whatever the lowering. -/
theorem registryQueries_runCalls (toLower : String → String) (reg : Registry)
    (calls : List RegistryCall) :
    (∀ id, isPubKeyHashAddrID (runCalls reg calls).1 id ↔ isPubKeyHashAddrID reg id ∨
      ∃ params, RegisteredIn calls (runCalls reg calls).2 params ∧
        params.pubKeyHashAddrID = id) ∧
    (∀ id, isScriptHashAddrID (runCalls reg calls).1 id ↔ isScriptHashAddrID reg id ∨
      ∃ params, RegisteredIn calls (runCalls reg calls).2 params ∧
        params.scriptHashAddrID = id) ∧
    (∀ s, isBech32SegwitPrefix toLower (runCalls reg calls).1 s ↔
      isBech32SegwitPrefix toLower reg s ∨
      ∃ params, RegisteredIn calls (runCalls reg calls).2 params ∧
        params.bech32HRPSegwit ++ "1" = toLower s) ∧
    (∀ s, isBech32MwebPrefix toLower (runCalls reg calls).1 s ↔
      isBech32MwebPrefix toLower reg s ∨
      ∃ params, RegisteredIn calls (runCalls reg calls).2 params ∧
        params.bech32HRPMweb ++ "1" = toLower s) := by
  simp only [isPubKeyHashAddrID, isScriptHashAddrID, isBech32SegwitPrefix, isBech32MwebPrefix,
    decide_eq_true_eq]
  exact ⟨fun id => mem_runCalls_of _ _ (fun _ _ _ h => (register_sets h).1)
      (fun _ _ _ => (registerHDKeyID_sets _ _ _).1) id reg calls,
    fun id => mem_runCalls_of _ _ (fun _ _ _ h => (register_sets h).2.1)
      (fun _ _ _ => (registerHDKeyID_sets _ _ _).2.1) id reg calls,
    fun s => mem_runCalls_of _ _ (fun _ _ _ h => (register_sets h).2.2.1)
      (fun _ _ _ => (registerHDKeyID_sets _ _ _).2.2.1) _ reg calls,
    fun s => mem_runCalls_of _ _ (fun _ _ _ h => (register_sets h).2.2.2)
      (fun _ _ _ => (registerHDKeyID_sets _ _ _).2.2.2) _ reg calls⟩

end Dsvd
