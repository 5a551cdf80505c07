import IdmMw.Model.Encryption

/-!
# A cipher that meets the assumptions

What is assumed of the primitives of the `crypto` module can be met: `Cipher.sealing` keeps the key
as the tag of a ciphertext, and names the text by a string of its length. Texts have names because
there are only countably many of them: a value in prefix notation is a list of tokens.

* `Json.tokens`, `Json.read`, and the countability of `Json`;
* `Cipher.sealing`, and what holds of it;
* `App.sealed`: an application that encrypts with it.
-/

namespace IdmMw

namespace Json

/-! ### Values as lists of tokens -/

/-- The beginning of a value: with the number of its elements, or the keys of its fields. -/
inductive Token
  | null
  | bool (b : Bool)
  | num (n : ℚ)
  | str (s : String)
  | arr (length : ℕ)
  | obj (keys : List String)

mutual

/-- A value in prefix notation. -/
def tokens : Json → List Token
  | null => [.null]
  | bool b => [.bool b]
  | num n => [.num n]
  | str s => [.str s]
  | arr xs => .arr xs.length :: tokensOfList xs
  | obj fields => .obj (fields.map Prod.fst) :: tokensOfFields fields

def tokensOfList : List Json → List Token
  | [] => []
  | v :: xs => tokens v ++ tokensOfList xs

def tokensOfFields : List (String × Json) → List Token
  | [] => []
  | (_, v) :: fields => tokens v ++ tokensOfFields fields

end

/-- Read a token, to the left of values that are read already. -/
def read : Token → List Json → List Json
  | .null, s => null :: s
  | .bool b, s => bool b :: s
  | .num n, s => num n :: s
  | .str v, s => str v :: s
  | .arr length, s => arr (s.take length) :: s.drop length
  | .obj keys, s => obj (keys.zip s) :: s.drop keys.length

mutual

theorem read_tokens (v : Json) (s : List Json) : (tokens v).foldr read s = v :: s := by
  cases v with
  | null | bool | num | str => rfl
  | arr xs => simp [tokens, read, read_tokensOfList xs s]
  | obj fields =>
    rw [tokens, List.foldr_cons, read_tokensOfFields fields s, read]
    have hzip : (fields.map Prod.fst).zip (fields.map Prod.snd ++ s) = fields := by
      induction fields with
      | nil => rfl
      | cons field fields ih => simp [ih]
    rw [hzip]
    simp

theorem read_tokensOfList (xs : List Json) (s : List Json) :
    (tokensOfList xs).foldr read s = xs ++ s := by
  cases xs with
  | nil => rfl
  | cons v xs =>
    rw [tokensOfList, List.foldr_append, read_tokensOfList xs s, read_tokens v]
    rfl

theorem read_tokensOfFields (fields : List (String × Json)) (s : List Json) :
    (tokensOfFields fields).foldr read s = fields.map Prod.snd ++ s := by
  cases fields with
  | nil => rfl
  | cons field fields =>
    obtain ⟨key, v⟩ := field
    rw [tokensOfFields, List.foldr_append, read_tokensOfFields fields s, read_tokens v]
    rfl

end

instance : Countable Char :=
  Function.Injective.countable (f := Char.toNat) fun _ _ => Char.toNat_inj.1

instance : Countable String :=
  Function.Injective.countable (f := String.toList) fun _ _ => String.toList_inj.1

deriving instance Countable for Token

instance : Countable Json :=
  Function.Injective.countable (f := tokens) fun v v' h => by
    have hread := congrArg (List.foldr read []) h
    simpa [read_tokens] using hread

end Json

instance : Countable JsonText :=
  Function.Injective.countable
    (f := fun t : JsonText => match t with | .text v => some v | .malformed => none)
    fun t t' h => by cases t <;> cases t' <;> simp_all

/-! ### The cipher -/

/-- No text of this kind is shorter; a malformed text may be empty. -/
def JsonText.minLength : JsonText → ℕ
  | text v => v.minLength
  | malformed => 0

/-- Every text has a name of its own, which is not shorter than the text. -/
theorem exists_textName :
    ∃ name : JsonText → String, Function.Injective name ∧ ∀ t, t.minLength ≤ (name t).length := by
  obtain ⟨f, hf⟩ := exists_injective_nat JsonText
  -- the number of a text, in unary, after padding that another mark ends
  refine ⟨fun t => String.ofList (List.replicate t.minLength 'x' ++ '.' ::
    List.replicate (f t) '1'), ?_, ?_⟩
  · intro t t' h
    have hlists := congrArg (fun s => s.toList.dropWhile (· = 'x')) h
    simpa [List.dropWhile_append, List.dropWhile_replicate, List.replicate_inj, hf.eq_iff]
      using hlists
  · intro t
    simp only [String.length_ofList, List.length_append, List.length_replicate]
    omega

/-- The name of a text. -/
noncomputable def textName : JsonText → String := exists_textName.choose

theorem textName_injective : Function.Injective textName := exists_textName.choose_spec.1

theorem length_textName (t : JsonText) : t.minLength ≤ (textName t).length :=
  exists_textName.choose_spec.2 t

/-- The text with a name. -/
noncomputable def namedText (name : String) : Option JsonText :=
  Function.partialInv textName name

/-- Source keys have digests of their own, which are hexadecimal numerals. -/
theorem exists_digest : ∃ digest : String → String → String,
    (∀ key, Function.Injective (digest key)) ∧
      ∀ key sourceKey, ∀ c ∈ (digest key sourceKey).toList, c ∈ "0123456789abcdef".toList := by
  obtain ⟨f, hf⟩ := exists_injective_nat (String × String)
  refine ⟨fun key sourceKey => String.ofList (List.replicate (f (key, sourceKey)) '1'), ?_, ?_⟩
  · intro key sourceKey sourceKey' h
    have hlengths := congrArg String.length h
    simp only [String.length_ofList, List.length_replicate, hf.eq_iff] at hlengths
    exact (Prod.mk.inj hlengths).2
  · intro key sourceKey c hc
    rw [String.toList_ofList] at hc
    obtain rfl := List.eq_of_mem_replicate hc
    decide

/-- A ciphertext is the name of the text, under the key as a tag. -/
noncomputable def Cipher.sealing : Cipher where
  hmac := exists_digest.choose
  encrypt key _ text := (key, textName text)
  decrypt key _ tag ct :=
    match namedText ct with
    | some text =>
      if tag = key then .ok text
      else .error (.error "Unsupported state or unable to authenticate data")
    | none => .error (.error "Unsupported state or unable to authenticate data")

theorem Cipher.sealing_correct : Cipher.sealing.Correct := by
  intro key iv text
  have hname : namedText (textName text) = some text :=
    Function.partialInv_left textName_injective text
  simp [Cipher.sealing, hname]

theorem Cipher.sealing_keepsLength : Cipher.sealing.KeepsLength := by
  intro key iv tag ct v h
  simp only [Cipher.sealing] at h
  split at h
  · next text hname =>
    split at h
    · obtain rfl := Except.ok.inj h
      obtain rfl := (textName_injective.isPartialInv _ _).1 hname
      exact length_textName (.text v)
    · cases h
  · cases h

/-- `App.queueing` with encryption under the first of two keys. -/
noncomputable def App.sealed : App :=
  { App.queueing with
    encryption :=
      { App.queueing.encryption with
        cipher := Cipher.sealing
        enabled := some true
        encryptionActiveKeyId := some "k1"
        keyring := .ok .ofTwo }
    encryption_valid := fun _ => ⟨"k1", "secret-1", rfl, rfl⟩ }

end IdmMw
