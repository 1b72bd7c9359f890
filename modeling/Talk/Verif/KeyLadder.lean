import Talk.Verif.SealedEnvelopes

/-!
# The wrapper ladder

A data key is wrapped under the shares of a user and under the master key. A credential resolves to
the data key exactly if it is one of those the key was last wrapped under.
-/

namespace Talk.Verif.KeyLadder

open Keys Hex

variable {aead : Aead}

/-- A wrapper opens, in the order of the set; else the error tells an empty set. -/
theorem tryWrappers_eq (share : SecretKey) (lastError : ResolverError)
    (wrappers : List WrappedByShare) :
    tryWrappers aead share lastError wrappers =
      match wrappers.findSome? fun wrapper => (unwrap aead share wrapper).toOption with
      | some dk => .ok dk
      | none => .error (if wrappers = [] then lastError else .decryptFailed) := by
  induction wrappers generalizing lastError with
  | nil => rfl
  | cons wrapper wrappers ih =>
    rw [tryWrappers, List.findSome?_cons, if_neg (List.cons_ne_nil _ _)]
    cases unwrap aead share wrapper with
    | ok dk => rfl
    | error error =>
      dsimp only
      rw [ih, ResolverError.ofShareError, ite_self]
      rfl

/-- What a data key was wrapped under: the shares, with what was drawn for each. -/
structure Layer where
  /-- The data key. -/
  dk : SecretKey
  /-- The draws. -/
  draws : List Draw

/-- The wrappers of layers, one layer after the other. -/
def wrappers (aead : Aead) (layers : List Layer) : List WrappedByShare :=
  layers.flatMap fun layer => rewrap aead layer.dk layer.draws

/-- A layer is wrapped under a share. -/
def Layer.has (layer : Layer) (share : SecretKey) : Bool :=
  layer.draws.any fun draw => draw.share == share

/-- A wrapper of a layer opens under its own share only. -/
theorem unwrap_wrapped (cipher : Ideal aead) (dk share : SecretKey) (draw : Draw) :
    (unwrap aead share ⟨draw.shareId, aeadSeal aead draw.share draw.nonce dk.val⟩).toOption =
      if draw.share = share then some dk else none := by
  split
  · rename_i same
    have opened : unwrap aead draw.share
        ⟨draw.shareId, aeadSeal aead draw.share draw.nonce dk.val⟩ = .ok dk :=
      (unwrap_iff cipher _).mpr ⟨draw.nonce, rfl⟩
    rw [← same, opened]
    rfl
  · rename_i differs
    cases opened : unwrap aead share ⟨draw.shareId, aeadSeal aead draw.share draw.nonce dk.val⟩ with
    | error error => rfl
    | ok key =>
      have other := (unwrap_iff cipher _).mp opened
      have one : SealedUnder aead draw.share dk (aeadSeal aead draw.share draw.nonce dk.val) :=
        ⟨draw.nonce, rfl⟩
      exact absurd (sealedUnder_unique cipher one other).1 differs

/-- Of the wrappers of one layer, one opens if the layer has the share. -/
theorem findSome_layer (cipher : Ideal aead) (share : SecretKey) (layer : Layer) :
    ((rewrap aead layer.dk layer.draws).findSome? fun wrapper =>
      (unwrap aead share wrapper).toOption) = if layer.has share then some layer.dk else none := by
  rw [rewrap, wrap, List.findSome?_map, Layer.has]
  induction layer.draws with
  | nil => rfl
  | cons draw draws ih =>
    rw [List.findSome?_cons, Function.comp_apply, unwrap_wrapped cipher, List.any_cons]
    by_cases same : draw.share = share
    · rw [if_pos same, beq_iff_eq.mpr same]
      rfl
    · rw [if_neg same, ih, beq_false_of_ne same]
      rfl

/-- Of the wrappers of all layers, one of the first layer with the share opens. -/
theorem findSome_layers (cipher : Ideal aead) (share : SecretKey) (layers : List Layer) :
    ((wrappers aead layers).findSome? fun wrapper => (unwrap aead share wrapper).toOption) =
      (layers.find? fun layer => layer.has share).map Layer.dk := by
  unfold wrappers
  induction layers with
  | nil => rfl
  | cons layer layers ih =>
    rw [List.flatMap_cons, List.findSome?_append, findSome_layer cipher, ih, List.find?_cons]
    cases layer.has share with
    | true => rfl
    | false => rfl

/-- A share resolves to the data key of the first layer that was wrapped under it, and fails where
there is none. -/
theorem resolve_layers (cipher : Ideal aead) (layers : List Layer) (share : SecretKey) :
    resolve aead (wrappers aead layers) (.share share) =
      match layers.find? fun layer => layer.has share with
      | some layer => .ok layer.dk
      | none => .error (if wrappers aead layers = [] then .shareMismatch else .decryptFailed) := by
  rw [resolve, tryWrappers_eq, findSome_layers cipher]
  cases layers.find? fun layer => layer.has share with
  | none => rfl
  | some layer => rfl

/-- Every credential resolves to what was wrapped under it: a share to the data key of the first
layer that has it, a master private key to the data key wrapped under its public half, and any
other one to nothing. -/
theorem credentials_resolve {agreement : Agreement} (cipher : Ideal aead)
    (curve : agreement.Ideal) (layers : List Layer) (share : SecretKey)
    (dk master holder ephemeral : SecretKey) (nonce : Block 12) :
    (resolve aead (wrappers aead layers) (.share share) =
      match layers.find? fun layer => layer.has share with
      | some layer => .ok layer.dk
      | none => .error (if wrappers aead layers = [] then .shareMismatch else .decryptFailed)) ∧
    resolve aead (wrappers aead layers) (.master holder) = .error .shareMismatch ∧
    MasterKeyResolver.unwrap agreement aead holder (MasterKeyResolver.wrap agreement aead dk
        (masterPubkey agreement master) ephemeral nonce) =
      if masterPubkey agreement holder = masterPubkey agreement master then .ok dk
      else .error .decryptFailed :=
  ⟨resolve_layers cipher layers share, rfl,
    SealedEnvelopes.unwrap_wrap cipher curve master holder dk ephemeral nonce⟩

/-- A data key that is wrapped for two shares, and another one for a third share. -/
def twoLayers : List Layer :=
  [⟨.replicate 32 1, [.replicate 2, .replicate 3]⟩, ⟨.replicate 32 9, [.replicate 4]⟩]

/-- The shares resolve to their own data keys, and one that was never wrapped for does not. -/
theorem shares_resolve :
    resolve .labelled (wrappers .labelled twoLayers) (.share (.replicate 32 3)) =
        .ok (.replicate 32 1) ∧
      resolve .labelled (wrappers .labelled twoLayers) (.share (.replicate 32 4)) =
        .ok (.replicate 32 9) ∧
      resolve .labelled (wrappers .labelled twoLayers) (.share (.replicate 32 5)) =
        .error .decryptFailed :=
  have resolves (byte : UInt8) := (credentials_resolve ideal_labelled ideal_ofFirstByte twoLayers
    (.replicate 32 byte) (.replicate 32 1) (.replicate 32 7) (.replicate 32 7) (.replicate 32 9)
    (.replicate 12 0)).1
  ⟨(resolves 3).trans (by decide +kernel), (resolves 4).trans (by decide +kernel),
    (resolves 5).trans (by decide +kernel)⟩

end Talk.Verif.KeyLadder
