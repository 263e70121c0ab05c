import Dsvd.Chain.Networks

/-! # The network registry

`Register` adds a network's magic, its two address IDs, its HD key pair and its two bech32
prefixes to six package-level maps, unless the magic is already known; `init` registers
the four default networks. The maps are modelled as lists: a set-like map by the list of its
keys, `List.insert` for an assignment, and the HD key map as an association list whose
newest entry shadows older ones. The duplicate check runs before any assignment, and
`RegisterHDKeyID` cannot fail on the `[4]byte` key IDs of a `Params`, so a failed call is a
duplicate and changes nothing.

The HD key map keeps the caller's slice of the public key ID, not a copy of its bytes. A
`Slice` names its backing array by address, and `Register` stores the slice of the array
inside the `Params` variable it is given: a variable registered twice is stored twice as one
array, and the bytes both entries read are whatever the variable holds when they are read.
Registration stores a prefix as given, while the bech32 queries lower their argument with
`strings.ToLower`, which is not among the sources and is a parameter here.
-/

namespace Dsvd

/-- The errors of the registry. -/
inductive RegistryError where
  | duplicateNet
  | unknownHDKeyID
  | invalidHDKeyID
  deriving DecidableEq, Repr

/-- `Error()` of `ErrDuplicateNet`, `ErrUnknownHDKeyID` and `ErrInvalidHDKeyID`. -/
def RegistryError.message : RegistryError → String
  | .duplicateNet => "duplicate Doriancoin network"
  | .unknownHDKeyID => "unknown hd private extended key bytes"
  | .invalidHDKeyID => "invalid hd extended key version bytes"

/-- A Go byte slice: the address of its backing array, its offset in it and its length.
Slices of one array share its bytes. -/
structure Slice where
  array : Nat
  offset : Nat
  len : Nat
  deriving DecidableEq, Repr

/-- `params.HDPublicKeyID[:]` for the `Params` variable at `paramsAddr`: all four bytes of the
array that variable holds. -/
def hdPublicKeyIDSlice (paramsAddr : Nat) : Slice := ⟨paramsAddr, 0, 4⟩

/-- `registeredNets`, `pubKeyHashAddrIDs`, `scriptHashAddrIDs`, `bech32SegwitPrefixes`,
`bech32MwebPrefixes` and `hdPrivToPubKeyIDs`, initially empty. -/
structure Registry where
  registeredNets : List UInt32 := []
  pubKeyHashAddrIDs : List UInt8 := []
  scriptHashAddrIDs : List UInt8 := []
  bech32SegwitPrefixes : List String := []
  bech32MwebPrefixes : List String := []
  hdPrivToPubKeyIDs : List (KeyID × Slice) := []
  deriving DecidableEq

/-- `RegisterHDKeyID`: map a copy of the private key ID to the caller's slice of the public
one. -/
def registerHDKeyID (reg : Registry) (hdPublicKeyID : Slice) (hdPrivateKeyID : List UInt8) :
    Registry × Option RegistryError :=
  if h : hdPublicKeyID.len ≠ 4 ∨ hdPrivateKeyID.length ≠ 4 then (reg, some .invalidHDKeyID)
  else
    let keyID : KeyID := ⟨hdPrivateKeyID, by omega⟩
    ({ reg with hdPrivToPubKeyIDs :=
        (keyID, hdPublicKeyID) :: reg.hdPrivToPubKeyIDs.filter (·.1 != keyID) }, none)

/-- `HDPrivateKeyToPublicKeyID`: the stored slice itself. -/
def hdPrivateKeyToPublicKeyID (reg : Registry) (id : List UInt8) : Except RegistryError Slice :=
  if h : id.length ≠ 4 then .error .unknownHDKeyID
  else
    match reg.hdPrivToPubKeyIDs.lookup ⟨id, by omega⟩ with
    | none => .error .unknownHDKeyID
    | some pubBytes => .ok pubBytes

/-- `Register` of the `Params` variable at `paramsAddr`, which holds `params`. -/
def register (reg : Registry) (params : Params) (paramsAddr : Nat) :
    Registry × Option RegistryError :=
  if params.net ∈ reg.registeredNets then (reg, some .duplicateNet)
  else
    let reg := { reg with
      registeredNets := reg.registeredNets.insert params.net
      pubKeyHashAddrIDs := reg.pubKeyHashAddrIDs.insert params.pubKeyHashAddrID
      scriptHashAddrIDs := reg.scriptHashAddrIDs.insert params.scriptHashAddrID }
    match registerHDKeyID reg (hdPublicKeyIDSlice paramsAddr) params.hdPrivateKeyID.val with
    | (reg, some err) => (reg, some err)
    | (reg, none) =>
      ({ reg with
        bech32SegwitPrefixes := reg.bech32SegwitPrefixes.insert (params.bech32HRPSegwit ++ "1")
        bech32MwebPrefixes := reg.bech32MwebPrefixes.insert (params.bech32HRPMweb ++ "1") },
        none)

/-- `mustRegister`: a failed registration panics with the error's text. -/
def mustRegister (reg : Registry) (params : Params) (paramsAddr : Nat) : Except String Registry :=
  match register reg params paramsAddr with
  | (reg, none) => .ok reg
  | (_, some err) => .error ("failed to register network: " ++ err.message)

/-- The package's `init`. The four package variables are told apart by the addresses 0 to 3. -/
def init : Except String Registry := do
  let reg ← mustRegister {} mainNetParams 0
  let reg ← mustRegister reg testNet4Params 1
  let reg ← mustRegister reg regressionNetParams 2
  mustRegister reg simNetParams 3

/-- `IsPubKeyHashAddrID`. -/
def isPubKeyHashAddrID (reg : Registry) (id : UInt8) : Bool := id ∈ reg.pubKeyHashAddrIDs

/-- `IsScriptHashAddrID`. -/
def isScriptHashAddrID (reg : Registry) (id : UInt8) : Bool := id ∈ reg.scriptHashAddrIDs

/-- `IsBech32SegwitPrefix`, for the lowering `toLower` of `strings.ToLower`. -/
def isBech32SegwitPrefix (toLower : String → String) (reg : Registry) (s : String) : Bool :=
  toLower s ∈ reg.bech32SegwitPrefixes

/-- `IsBech32MwebPrefix`, for the lowering `toLower` of `strings.ToLower`. -/
def isBech32MwebPrefix (toLower : String → String) (reg : Registry) (s : String) : Bool :=
  toLower s ∈ reg.bech32MwebPrefixes

/-- Register each `Params` variable in turn, keeping each call's error. -/
def registerAll (reg : Registry) : List (Params × Nat) → Registry × List (Option RegistryError)
  | [] => (reg, [])
  | (params, paramsAddr) :: rest =>
    let step := register reg params paramsAddr
    let run := registerAll step.1 rest
    (run.1, step.2 :: run.2)

/-- The default networks at their addresses, in the order `init` registers them. -/
def defaultParams : List (Params × Nat) :=
  [(mainNetParams, 0), (testNet4Params, 1), (regressionNetParams, 2), (simNetParams, 3)]

/-- `init` registers the four default networks without an error. -/
theorem init_eq : init = .ok (registerAll {} defaultParams).1 ∧
    (registerAll {} defaultParams).2 = [none, none, none, none] := ⟨rfl, rfl⟩

/-! ## One call -/

/-- What `Register` does: a known magic leaves every map unchanged and reports a duplicate;
an unknown one is recorded with everything else, and the call succeeds. -/
theorem register_cases (reg : Registry) (params : Params) (paramsAddr : Nat) :
    (params.net ∈ reg.registeredNets ∧ register reg params paramsAddr = (reg, some .duplicateNet)) ∨
    (params.net ∉ reg.registeredNets ∧ register reg params paramsAddr =
      ({ registeredNets := reg.registeredNets.insert params.net
         pubKeyHashAddrIDs := reg.pubKeyHashAddrIDs.insert params.pubKeyHashAddrID
         scriptHashAddrIDs := reg.scriptHashAddrIDs.insert params.scriptHashAddrID
         bech32SegwitPrefixes := reg.bech32SegwitPrefixes.insert (params.bech32HRPSegwit ++ "1")
         bech32MwebPrefixes := reg.bech32MwebPrefixes.insert (params.bech32HRPMweb ++ "1")
         hdPrivToPubKeyIDs := (params.hdPrivateKeyID, hdPublicKeyIDSlice paramsAddr) ::
           reg.hdPrivToPubKeyIDs.filter (·.1 != params.hdPrivateKeyID) }, none)) := by
  unfold register
  split_ifs with h
  · exact .inl ⟨h, rfl⟩
  · refine .inr ⟨h, ?_⟩
    simp only [registerHDKeyID, hdPublicKeyIDSlice, params.hdPrivateKeyID.property,
      ne_eq, not_true_eq_false, or_self, dite_false]
    rfl

/-- The set-like maps only grow. -/
structure Registry.Grows (a b : Registry) : Prop where
  nets : ∀ x ∈ a.registeredNets, x ∈ b.registeredNets
  pubKeyHash : ∀ x ∈ a.pubKeyHashAddrIDs, x ∈ b.pubKeyHashAddrIDs
  scriptHash : ∀ x ∈ a.scriptHashAddrIDs, x ∈ b.scriptHashAddrIDs
  segwit : ∀ x ∈ a.bech32SegwitPrefixes, x ∈ b.bech32SegwitPrefixes
  mweb : ∀ x ∈ a.bech32MwebPrefixes, x ∈ b.bech32MwebPrefixes

theorem Registry.Grows.refl (a : Registry) : a.Grows a := ⟨fun _ => id, fun _ => id, fun _ => id,
  fun _ => id, fun _ => id⟩

theorem Registry.Grows.trans {a b c : Registry} (hab : a.Grows b) (hbc : b.Grows c) : a.Grows c :=
  ⟨fun x hx => hbc.nets x (hab.nets x hx), fun x hx => hbc.pubKeyHash x (hab.pubKeyHash x hx),
    fun x hx => hbc.scriptHash x (hab.scriptHash x hx), fun x hx => hbc.segwit x (hab.segwit x hx),
    fun x hx => hbc.mweb x (hab.mweb x hx)⟩

theorem register_grows (reg : Registry) (params : Params) (paramsAddr : Nat) :
    reg.Grows (register reg params paramsAddr).1 := by
  rcases register_cases reg params paramsAddr with ⟨-, h⟩ | ⟨-, h⟩ <;> rw [h]
  · exact .refl reg
  · exact ⟨fun _ => List.mem_insert_of_mem, fun _ => List.mem_insert_of_mem,
      fun _ => List.mem_insert_of_mem, fun _ => List.mem_insert_of_mem,
      fun _ => List.mem_insert_of_mem⟩

theorem registerAll_grows (reg : Registry) (calls : List (Params × Nat)) :
    reg.Grows (registerAll reg calls).1 := by
  induction calls generalizing reg with
  | nil => exact .refl reg
  | cons call rest ih => exact (register_grows reg call.1 call.2).trans (ih _)

/-- After a run, a magic is registered exactly when it was registered at the start or a
successful call of the run registered it. -/
theorem mem_registerAll_nets (reg : Registry) (calls : List (Params × Nat)) (net : UInt32) :
    net ∈ (registerAll reg calls).1.registeredNets ↔ net ∈ reg.registeredNets ∨
      ∃ call ∈ calls.zip (registerAll reg calls).2, call.2 = none ∧ call.1.1.net = net := by
  induction calls generalizing reg with
  | nil => simp [registerAll]
  | cons call rest ih =>
    obtain ⟨params, paramsAddr⟩ := call
    simp only [registerAll, List.zip_cons_cons, List.mem_cons, exists_eq_or_imp, ih]
    rcases register_cases reg params paramsAddr with ⟨hin, h⟩ | ⟨hin, h⟩ <;> rw [h]
    · simp
    · simp only [List.mem_insert_iff, true_and, @eq_comm _ params.net net]
      tauto

/-! ## Runs of `Register` -/

/-- **The registry over a run of `Register`.** `init` is the run of `defaultParams` from the
empty registries, and none of its calls fails. From the empty registries take any calls
`pre`, then a call of `params` at `paramsAddr`, then any calls `post`. The call fails with
`ErrDuplicateNet` when an earlier successful call registered its magic and succeeds
otherwise, and a failed call changes nothing. After a successful call, and after every later
one, both address IDs are known, and so is each bech32 prefix that `toLower` leaves as it is. -/
theorem register_run (toLower : String → String) (pre : List (Params × Nat)) (params : Params)
    (paramsAddr : Nat) (post : List (Params × Nat)) :
    let reg := (registerAll {} pre).1
    let step := register reg params paramsAddr
    let reg' := (registerAll step.1 post).1
    (init = .ok (registerAll {} defaultParams).1 ∧
      (registerAll {} defaultParams).2 = [none, none, none, none]) ∧
    step.2 = (if ∃ call ∈ pre.zip (registerAll {} pre).2, call.2 = none ∧ call.1.1.net = params.net
      then some .duplicateNet else none) ∧
    (step.2 ≠ none → step.1 = reg) ∧
    (step.2 = none →
      isPubKeyHashAddrID reg' params.pubKeyHashAddrID ∧
      isScriptHashAddrID reg' params.scriptHashAddrID ∧
      (toLower (params.bech32HRPSegwit ++ "1") = params.bech32HRPSegwit ++ "1" →
        isBech32SegwitPrefix toLower reg' (params.bech32HRPSegwit ++ "1")) ∧
      (toLower (params.bech32HRPMweb ++ "1") = params.bech32HRPMweb ++ "1" →
        isBech32MwebPrefix toLower reg' (params.bech32HRPMweb ++ "1"))) := by
  dsimp only
  have hnets := mem_registerAll_nets {} pre params.net
  simp only [List.not_mem_nil, false_or] at hnets
  have hg := registerAll_grows (register (registerAll {} pre).1 params paramsAddr).1 post
  refine ⟨init_eq, ?_⟩
  rcases register_cases (registerAll {} pre).1 params paramsAddr with ⟨hin, h⟩ | ⟨hin, h⟩ <;>
    rw [h] at hg ⊢
  · exact ⟨(if_pos (hnets.mp hin)).symm, fun _ => rfl, fun h => absurd h (by simp)⟩
  · refine ⟨(if_neg (fun h => hin (hnets.mpr h))).symm, fun h => absurd rfl h, fun _ => ?_⟩
    simp only [isPubKeyHashAddrID, isScriptHashAddrID, isBech32SegwitPrefix, isBech32MwebPrefix,
      decide_eq_true_eq]
    exact ⟨hg.pubKeyHash _ (List.mem_insert_self _ _), hg.scriptHash _ (List.mem_insert_self _ _),
      fun hs => by rw [hs]; exact hg.segwit _ (List.mem_insert_self _ _),
      fun hs => by rw [hs]; exact hg.mweb _ (List.mem_insert_self _ _)⟩

/-- The main network's parameters with the human-readable part `DSV`. -/
def upperCaseParams : Params := { mainNetParams with bech32HRPSegwit := "DSV" }

/-- Registering `DSV` succeeds and stores `DSV1`, but the query lowers `DSV1` to `dsv1`, which
was never stored. -/
theorem register_upperCase_not_prefix (toLower : String → String)
    (hlower : toLower "DSV1" = "dsv1") :
    (register {} upperCaseParams 0).2 = none ∧
      isBech32SegwitPrefix toLower (register {} upperCaseParams 0).1
        (upperCaseParams.bech32HRPSegwit ++ "1") = false := by
  refine ⟨rfl, ?_⟩
  rw [isBech32SegwitPrefix, show upperCaseParams.bech32HRPSegwit ++ "1" = "DSV1" from rfl, hlower]
  rfl

/-- Lowering ASCII letters, as `strings.ToLower` does on ASCII text. -/
theorem register_upperCase_not_prefix_ascii :
    (String.mk ("DSV1".data.map Char.toLower) = "dsv1") ∧
      (register {} upperCaseParams 0).2 = none ∧
      isBech32SegwitPrefix (fun s => String.mk (s.data.map Char.toLower))
        (register {} upperCaseParams 0).1 (upperCaseParams.bech32HRPSegwit ++ "1") = false :=
  have hlower : String.mk ("DSV1".data.map Char.toLower) = "dsv1" := by decide
  ⟨hlower, register_upperCase_not_prefix _ hlower⟩

end Dsvd
