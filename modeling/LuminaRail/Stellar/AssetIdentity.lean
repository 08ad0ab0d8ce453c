import LuminaRail.Stellar.Assets

/-! Which assets of the ledger the services tell apart. A code is put in upper case and compared
with the names of the native asset before its issuer is looked at, and all pool shares have the
same name.
-/

namespace LuminaRail

open StellarAssetService StellarBalanceService

-----------------------------------------------------------------------------------------
-- Letters and digits
-----------------------------------------------------------------------------------------

/-- What the upper case of a letter or digit is like. -/
def Capital (c : Char) : Prop :=
  upperCase c = [c] ∧ isWhiteSpace c = false ∧ c.toNat < 0x10000

instance (c : Char) : Decidable (Capital c) := inferInstanceAs (Decidable (_ ∧ _ ∧ _))

theorem capital_ascii
    : ∀ n < 128, (Char.ofNat n).isAlphanum = true
        → upperCase (Char.ofNat n) = [(Char.ofNat n).toUpper] ∧ Capital (Char.ofNat n).toUpper := by
  decide +kernel

theorem capital_of_alphanum {c : Char} (alphanumeric : c.isAlphanum = true)
    : upperCase c = [c.toUpper] ∧ Capital c.toUpper := by
  have ascii : c.toNat < 128 := by
    have ranges : ((decide (65 ≤ c.val ∧ c.val ≤ 90)
        || decide (97 ≤ c.val) && decide (c.val ≤ 122))
        || decide (48 ≤ c.val) && decide (c.val ≤ 57)) = true := alphanumeric
    simp only [Bool.or_eq_true, Bool.and_eq_true, decide_eq_true_eq, UInt32.le_iff_toNat_le]
      at ranges
    change (((65 ≤ c.toNat ∧ c.toNat ≤ 90) ∨ (97 ≤ c.toNat ∧ c.toNat ≤ 122)) ∨
      (48 ≤ c.toNat ∧ c.toNat ≤ 57)) at ranges
    omega
  have checked := capital_ascii c.toNat ascii
  rw [Char.ofNat_toNat] at checked
  exact checked alphanumeric

theorem trim_of_visible {text : String} (visible : ∀ c ∈ text.toList, isWhiteSpace c = false)
    : trim text = text := by
  have kept : text.toList.dropWhile isWhiteSpace = text.toList :=
    List.dropWhile_eq_self_iff.mpr fun nonempty => by simp [visible _ (List.getElem_mem nonempty)]
  have whole : text.toList.rdropWhile isWhiteSpace = text.toList :=
    List.rdropWhile_eq_self_iff.mpr fun nonempty => by simp [visible _ (List.getLast_mem nonempty)]
  rw [trim, kept, whole, String.ofList_toList]

theorem utf16Length_of_short {text : String} (short : ∀ c ∈ text.toList, c.toNat < 0x10000)
    : utf16Length text = text.length := by
  have ones : text.toList.map (fun c => if c.toNat < 0x10000 then 1 else 2)
      = text.toList.map fun _ => 1 :=
    List.map_congr_left fun c member => if_pos (short c member)
  rw [utf16Length, ones]
  simpa using String.length_toList

/-- The upper case of a text of capitals is the text itself. -/
theorem toUpperCase_of_capitals {text : String} (capitals : ∀ c ∈ text.toList, Capital c)
    : toUpperCase text = text := by
  have each : text.toList.flatMap upperCase = text.toList := by
    have mapped : text.toList.flatMap upperCase = text.toList.flatMap fun c => [c] :=
      List.flatMap_congr fun c member => (capitals c member).1
    simp [mapped]
  rw [toUpperCase, each, String.ofList_toList]

namespace CreditAsset

variable {sdk : StellarSdk} (asset : CreditAsset sdk)

/-- The code in upper case. -/
def upperCode : String := toUpperCase asset.code

theorem upperCode_toList : asset.upperCode.toList = asset.code.toList.map Char.toUpper := by
  have mapped : asset.code.toList.flatMap upperCase
      = asset.code.toList.flatMap fun c => [c.toUpper] :=
    List.flatMap_congr fun c member => (capital_of_alphanum (asset.alphanumeric c member)).1
  rw [upperCode, toUpperCase, String.toList_ofList, mapped, List.map_eq_flatMap]

theorem upperCode_capitals (c : Char) (member : c ∈ asset.upperCode.toList) : Capital c := by
  rw [upperCode_toList, List.mem_map] at member
  obtain ⟨d, found, rfl⟩ := member
  exact (capital_of_alphanum (asset.alphanumeric d found)).2

theorem upperCode_length : asset.upperCode.length = asset.code.length := by
  rw [← String.length_toList, upperCode_toList, List.length_map, String.length_toList]

theorem upperCode_clean : trim (toUpperCase asset.code) = asset.upperCode :=
  trim_of_visible fun c member => (asset.upperCode_capitals c member).2.1

theorem upperCode_again : trim (toUpperCase asset.upperCode) = asset.upperCode := by
  rw [toUpperCase_of_capitals asset.upperCode_capitals]
  exact asset.upperCode_clean

theorem utf16Length_upperCode : utf16Length asset.upperCode = asset.code.length := by
  rw [utf16Length_of_short fun c member => (asset.upperCode_capitals c member).2.2,
    upperCode_length]

end CreditAsset

-----------------------------------------------------------------------------------------
-- Names of assets
-----------------------------------------------------------------------------------------

variable {sdk : StellarSdk} {config : Config}

theorem validateAssetIdentifier_upperCode (asset : CreditAsset sdk)
    : validateAssetIdentifier sdk asset.upperCode (some asset.issuer) = true := by
  have positive : asset.code.length ≠ 0 := mt String.length_eq_zero_iff.mp asset.nonempty
  have short := asset.short
  have nonempty : asset.upperCode ≠ "" := by
    intro empty
    have length := asset.upperCode_length
    rw [empty] at length
    exact absurd length (by simp; omega)
  simp only [validateAssetIdentifier, if_neg nonempty, asset.upperCode_again,
    asset.utf16Length_upperCode]
  split
  · rfl
  · rw [if_neg (by omega)]
    simp [truthy, asset.named, asset.valid]

/-- A credit asset is named by its code in upper case and its issuer, unless it is called like the
native asset.
-/
theorem normalizeAsset_credit (asset : CreditAsset sdk)
    : normalizeAsset sdk config asset.code (some asset.issuer)
      = .ok (if isNativeCode asset.upperCode then
          { type := .native, code := "XLM", issuer := none, network := config.stellar.network }
        else
          { type := if asset.code.length ≤ 4 then .credit_alphanum4 else .credit_alphanum12
            code := asset.upperCode
            issuer := some asset.issuer
            network := config.stellar.network }) := by
  simp only [normalizeAsset, asset.upperCode_clean, validateAssetIdentifier_upperCode, if_true,
    asset.utf16Length_upperCode]
  split <;> rfl

/-- What an asset is told by. -/
structure AssetKey where
  type : AssetType
  code : String
  issuer : Option String
deriving DecidableEq

def NormalizedStellarBalance.key (balance : NormalizedStellarBalance) : AssetKey :=
  ⟨balance.assetType, balance.assetCode, balance.assetIssuer⟩

/-- The key that an asset of the ledger gets. -/
def LedgerAsset.key : LedgerAsset sdk → AssetKey
  | .native => ⟨.native, "XLM", none⟩
  | .credit asset =>
      if isNativeCode asset.upperCode then
        ⟨.native, "XLM", none⟩
      else
        ⟨if asset.code.length ≤ 4 then .credit_alphanum4 else .credit_alphanum12, asset.upperCode,
          some asset.issuer⟩
  | .liquidityPoolShares _ => ⟨.credit_alphanum4, "UNKNOWN", none⟩

/-- Every line is normalized, with the key of its asset. -/
theorem normalizeBalance_key (line : BalanceLine sdk)
    : ∃ balance, normalizeBalance sdk config line = .ok balance ∧ balance.key = line.asset.key := by
  rw [normalizeBalance]
  cases line.asset with
  | native => exact ⟨_, rfl, rfl⟩
  | credit asset =>
      simp only [normalizeAsset_credit]
      refine ⟨_, rfl, ?_⟩
      by_cases native : isNativeCode asset.upperCode <;>
        simp [LedgerAsset.key, NormalizedStellarBalance.key, native]
  | liquidityPoolShares poolId => exact ⟨_, rfl, rfl⟩

/-- All lines are normalized, each with the key of its asset. -/
theorem normalizeBalances_keys (lines : List (BalanceLine sdk))
    : ∃ balances,
        normalizeBalances sdk config lines = .ok balances
        ∧ List.Forall₂ (fun line balance => balance.key = line.asset.key) lines balances := by
  induction lines with
  | nil => exact ⟨[], rfl, .nil⟩
  | cons line lines ih =>
      obtain ⟨balances, normalized, keys⟩ := ih
      obtain ⟨balance, first, key⟩ := @normalizeBalance_key sdk config line
      refine ⟨balance :: balances, ?_, .cons key keys⟩
      rw [normalizeBalances] at normalized ⊢
      rw [List.mapM_cons, first, normalized]
      rfl

/-- No credit asset is called like the native one, no two of one issuer differ in case only, and
there are shares of one pool at most.
-/
def Unambiguous (assets : List (LedgerAsset sdk)) : Prop :=
  (∀ asset, .credit asset ∈ assets → ¬isNativeCode asset.upperCode)
  ∧ (∀ a b, .credit a ∈ assets → .credit b ∈ assets → a.issuer = b.issuer
      → a.upperCode = b.upperCode → a.code = b.code)
  ∧ ∀ p q, .liquidityPoolShares p ∈ assets → .liquidityPoolShares q ∈ assets → p = q

/-- The keys tell the assets of a list apart, and only the native asset has its type. -/
def KeysTell (assets : List (LedgerAsset sdk)) : Prop :=
  (∀ a ∈ assets, ∀ b ∈ assets, a ≠ b → a.key ≠ b.key)
  ∧ ∀ a ∈ assets, a.key.type = .native → a = .native

theorem keysTell_iff (assets : List (LedgerAsset sdk)) : KeysTell assets ↔ Unambiguous assets := by
  constructor
  · intro tell
    refine ⟨fun asset listed native => ?_, fun a b first second issuer code => ?_,
      fun p q first second => ?_⟩
    · have same := tell.2 _ listed (by simp [LedgerAsset.key, native])
      cases same
    · by_contra differ
      refine tell.1 _ first _ second (fun same => differ (by cases same; rfl)) ?_
      have length : a.code.length = b.code.length := by
        rw [← a.upperCode_length, code, b.upperCode_length]
      simp [LedgerAsset.key, issuer, code, length]
    · by_contra differ
      exact tell.1 _ first _ second (fun same => differ (by cases same; rfl)) rfl
  · intro unambiguous
    obtain ⟨credit, code, pool⟩ := unambiguous
    refine ⟨fun a first b second differ same => differ ?_, fun a listed native => ?_⟩
    · cases a with
      | native =>
          cases b with
          | native => rfl
          | credit b =>
              rw [LedgerAsset.key, LedgerAsset.key, if_neg (credit b second)] at same
              cases congrArg AssetKey.issuer same
          | liquidityPoolShares q => cases congrArg AssetKey.type same
      | credit a =>
          have own := credit a first
          cases b with
          | native =>
              rw [LedgerAsset.key, LedgerAsset.key, if_neg own] at same
              cases congrArg AssetKey.issuer same
          | credit b =>
              rw [LedgerAsset.key, LedgerAsset.key, if_neg own, if_neg (credit b second)] at same
              have issuers := Option.some.inj (congrArg AssetKey.issuer same)
              have codes := code a b first second issuers (congrArg AssetKey.code same)
              exact congrArg _ (CreditAsset.ext codes issuers)
          | liquidityPoolShares q =>
              rw [LedgerAsset.key, LedgerAsset.key, if_neg own] at same
              cases congrArg AssetKey.issuer same
      | liquidityPoolShares p =>
          cases b with
          | native => cases congrArg AssetKey.type same
          | credit b =>
              rw [LedgerAsset.key, LedgerAsset.key, if_neg (credit b second)] at same
              cases congrArg AssetKey.issuer same
          | liquidityPoolShares q => rw [pool p q first second]
    · cases a with
      | native => rfl
      | credit a =>
          rw [LedgerAsset.key, if_neg (credit a listed)] at native
          split at native <;> cases native
      | liquidityPoolShares p => cases native

/-- Different assets get balances with different keys, and only the native line a native one. -/
def IdentityPreserved (lines : List (BalanceLine sdk)) (balances : List NormalizedStellarBalance)
    : Prop :=
  (∀ x ∈ lines.zip balances, ∀ y ∈ lines.zip balances,
    x.1.asset ≠ y.1.asset → x.2.key ≠ y.2.key)
  ∧ ∀ x ∈ lines.zip balances, x.2.assetType = .native → x.1.asset = .native

theorem identityPreserved_iff {lines : List (BalanceLine sdk)}
    {balances : List NormalizedStellarBalance}
    (keys : List.Forall₂ (fun line balance => balance.key = line.asset.key) lines balances)
    : IdentityPreserved lines balances ↔ KeysTell (lines.map BalanceLine.asset) := by
  obtain ⟨length, each⟩ := List.forall₂_iff_zip.mp keys
  have lined : ∀ x ∈ lines.zip balances, x.1 ∈ lines := fun _ member => (List.of_mem_zip member).1
  have found : ∀ line ∈ lines, ∃ x ∈ lines.zip balances, x.1 = line := by
    intro line member
    rw [← @List.map_fst_zip _ _ lines balances (le_of_eq length)] at member
    simpa using member
  have keyed : ∀ x ∈ lines.zip balances, x.2.key = x.1.asset.key := fun x member => each member
  constructor
  · intro preserved
    refine ⟨fun a first b second differ => ?_, fun a listed native => ?_⟩
    · obtain ⟨line, member, rfl⟩ := List.mem_map.mp first
      obtain ⟨other, other_member, rfl⟩ := List.mem_map.mp second
      obtain ⟨x, zipped, rfl⟩ := found line member
      obtain ⟨y, other_zipped, rfl⟩ := found other other_member
      rw [← keyed x zipped, ← keyed y other_zipped]
      exact preserved.1 x zipped y other_zipped differ
    · obtain ⟨line, member, rfl⟩ := List.mem_map.mp listed
      obtain ⟨x, zipped, rfl⟩ := found line member
      rw [← keyed x zipped] at native
      exact preserved.2 x zipped native
  · intro tell
    refine ⟨fun x first y second differ => ?_, fun x zipped native => ?_⟩
    · rw [keyed x first, keyed y second]
      exact tell.1 _ (List.mem_map_of_mem (lined x first)) _ (List.mem_map_of_mem (lined y second))
        differ
    · refine tell.2 _ (List.mem_map_of_mem (lined x zipped)) ?_
      rw [← keyed x zipped]
      exact native

-----------------------------------------------------------------------------------------
-- Accepted assets
-----------------------------------------------------------------------------------------

theorem isAllowlistedAsset_iff (asset : CreditAsset sdk)
    : isAllowlistedAsset sdk config asset.code (some asset.issuer) = true
      ↔ isNativeCode asset.upperCode
        ∨ (asset.upperCode = "USDC" ∧ asset.issuer = config.stellar.usdcIssuer) := by
  simp only [isAllowlistedAsset, normalizeAsset_credit]
  by_cases native : isNativeCode asset.upperCode
  · simp [native]
  · simp only [native, if_false, false_or, Bool.or_eq_true, Bool.and_eq_true, decide_eq_true_eq,
      Option.some.injEq]
    constructor
    · rintro (kind | accepted)
      · split at kind <;> cases kind
      · exact accepted
    · exact Or.inr

/-- The assets of an account are told apart exactly if they are unambiguous. A credit asset is
only accepted if it is the USDC of the configured issuer, exactly if it is neither called like
the native asset nor a USDC of that issuer in another case. By the keys under which the balances
are stored.
-/
theorem asset_identity_preserved_iff (sdk : StellarSdk) (config : Config)
    : (∀ lines : List (BalanceLine sdk),
        ∃ balances,
          normalizeBalances sdk config lines = .ok balances
          ∧ (IdentityPreserved lines balances ↔ Unambiguous (lines.map BalanceLine.asset)))
      ∧ ∀ asset : CreditAsset sdk,
          ((isAllowlistedAsset sdk config asset.code (some asset.issuer) = true
              → asset.code = "USDC" ∧ asset.issuer = config.stellar.usdcIssuer)
            ↔ ¬isNativeCode asset.upperCode
              ∧ (asset.issuer = config.stellar.usdcIssuer → asset.upperCode = "USDC"
                → asset.code = "USDC")) := by
  refine ⟨fun lines => ?_, fun asset => ?_⟩
  · obtain ⟨balances, normalized, keys⟩ := @normalizeBalances_keys sdk config lines
    refine ⟨balances, normalized, ?_⟩
    rw [identityPreserved_iff keys, keysTell_iff]
  · rw [isAllowlistedAsset_iff]
    constructor
    · intro only
      refine ⟨fun native => ?_, fun issuer code => (only (Or.inr ⟨code, issuer⟩)).1⟩
      obtain ⟨code, -⟩ := only (Or.inl native)
      rw [CreditAsset.upperCode, code] at native
      exact absurd native (by decide +kernel)
    · rintro ⟨foreign, exact'⟩ (native | ⟨code, issuer⟩)
      · exact absurd native foreign
      · exact ⟨exact' issuer code, issuer⟩

/-- One public key is known. -/
def issuerSdk : StellarSdk where
  fromXDR _ _ := none
  toXDR _ := ""
  signXDR xdr _ := xdr
  isValidEd25519PublicKey key := key = STELLAR_MAINNET_USDC_ISSUER
  isValidContract _ := false
  publicKeyOf _ := none
  kmsPublicKey := ""

/-- A credit asset that is called like the native one. -/
def issuedLumens : CreditAsset issuerSdk where
  code := "XLM"
  issuer := STELLAR_MAINNET_USDC_ISSUER
  nonempty := by decide
  short := by decide
  alphanumeric := List.all_eq_true.mp (by decide)
  named := by decide
  valid := by decide

/-- It is accepted, and normalized to the native asset. -/
theorem issued_lumens_taken_for_native
    : isAllowlistedAsset issuerSdk {} issuedLumens.code (some issuedLumens.issuer) = true
      ∧ (normalizeBalances issuerSdk {}
          [{ asset := .native, balance := "1" }, { asset := .credit issuedLumens, balance := "2" }]
          |>.map (List.map NormalizedStellarBalance.key))
        = .ok [⟨.native, "XLM", none⟩, ⟨.native, "XLM", none⟩] := by
  decide +kernel

end LuminaRail
