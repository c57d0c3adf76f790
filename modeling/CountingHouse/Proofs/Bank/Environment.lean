/-
Settings from the environment.

Each of the eleven variables stands for one setting. Where it spells a value of the setting the
settings have that value, and where it is unset or spells none they have the default, whatever
else is in the environment. The kind of a variable says which texts spell which values. There is
one exception: a duration that is a stored integer of more seconds than a span can have does not
count as unusable, it makes loading fail, whatever else is in the environment (`Loads`).
-/
import CountingHouse.Bank.Settings
import CountingHouse.Proofs.Text.Letters
import CountingHouse.Proofs.Text.Numeral
import CountingHouse.Proofs.Text.Trim

set_option autoImplicit false

namespace CountingHouse

open Text

/-! ## Texts of values -/

namespace TokenFormat

/-- The words for a format. -/
def words : TokenFormat → List String
  | signed => ["jwt"]
  | sealed => ["sealed", "paseto"]

/-- Whether a text names a format: a word for it, with blanks around it. -/
def Names (text : String) (f : TokenFormat) : Prop :=
  ∃ word ∈ f.words, ∃ core, Wraps text.toList core ∧ SameWord word.toList core

/-- The words for a format are not empty and have small letters only, which is what lets them be
compared without regard to case. -/
theorem isLower_of_mem_words {f : TokenFormat} {word : String} (h : word ∈ f.words) :
    word.toList ≠ [] ∧ ∀ letter ∈ word.toList, letter.isLower = true := by
  cases f <;> simp only [words, List.mem_cons, List.not_mem_nil, or_false] at h
  · rw [h]
    exact ⟨by simp, by simp⟩
  · rcases h with rfl | rfl <;> exact ⟨by simp, by simp⟩

/-- The reader of formats accepts a text if and only if it names the format: some word of it, in any
case, with blanks around it. -/
theorem parse_eq_ok_iff {text : String} {f : TokenFormat} :
    parse text = .ok f ↔ Names text f := by
  -- none of the words has a capital, so comparing in small letters is comparing words
  have hword : ∀ word ∈ f.words,
      (String.ofList (lowerAscii (trim text.toList)) = word
        ↔ ∃ core, Wraps text.toList core ∧ SameWord word.toList core) := by
    intro word hmem
    obtain ⟨hne, hlower⟩ := isLower_of_mem_words hmem
    rw [← String.toList_inj, String.toList_ofList, lowerAscii_eq_iff hlower]
    exact trim_iff_exists_wraps fun _ => isWord_of_sameWord hne hlower
  have hparse : parse text = .ok f ↔ String.ofList (lowerAscii (trim text.toList)) ∈ f.words := by
    unfold parse
    simp only
    split
    · next hjwt => cases f <;> simp [hjwt, words]
    · next hjwt =>
      split
      · next hsealed => cases f <;> simp [hjwt, hsealed, words]
      · next hsealed => cases f <;> simp [hjwt, not_or.mp hsealed, words]
  rw [hparse]
  constructor
  · intro hmem
    exact ⟨_, hmem, (hword _ hmem).mp rfl⟩
  · rintro ⟨word, hmem, hcore⟩
    rwa [(hword word hmem).mpr hcore]

end TokenFormat

namespace Settings

/-- What a variable is read as. -/
inductive Kind where
  | text
  | count
  | format
  | duration
  | delay

namespace Kind

abbrev Value : Kind → Type
  | text => String
  | count => Nat
  | format => TokenFormat
  | duration => Span
  | delay => Delay

/-- Whether a text spells a value: itself, a count of 32 bits, a name of a format, a number of
seconds that a span can have, or a number of milliseconds of 64 bits. -/
def Spells : (k : Kind) → String → k.Value → Prop
  | text, s, value => value = s
  | count, s, n => SpellsNat s.toList n ∧ n < 2 ^ 32
  | format, s, f => TokenFormat.Names s f
  | duration, s, span =>
    ∃ n : Int, SpellsInt s.toList n ∧ n.natAbs ≤ Span.secondsLimit ∧ span.nanos = n * 10 ^ 9
  | delay, s, d => ∃ n : Nat, SpellsNat s.toList n ∧ n < 2 ^ 64 ∧ d.total = n * 10 ^ 6

/-- Whether a text is a number of seconds that is stored but too long for a span. -/
def TooLong (s : String) : Prop :=
  ∃ n : Int, SpellsInt s.toList n ∧ IsStored n ∧ Span.secondsLimit < n.natAbs

/-- The value that a text spells. -/
def read? : (k : Kind) → String → Option k.Value
  | text, s => some (String.ofList s.toList)
  | count, s => readBits 32 s.toList
  | format, s => (TokenFormat.parse (String.ofList s.toList)).toOption
  | duration, s => (readInt? leastStored greatestStored s.toList).bind Span.ofSeconds?
  | delay, s => (readBits 64 s.toList).map Delay.ofMillis

end Kind

/-- A count of so many bits is read if it is spelled and has room. -/
theorem readBits_eq_some_iff {bits n : Nat} {s : List Char} :
    readBits bits s = some n ↔ SpellsNat s n ∧ n < 2 ^ bits := by
  have hpos : 0 < 2 ^ bits := Nat.two_pow_pos bits
  have hlimit : n ≤ Nat.pow 2 bits - 1 ↔ n < 2 ^ bits := Nat.le_sub_one_iff_lt hpos
  rw [readBits, readNat?_eq_some_iff, hlimit]

/-- A number of milliseconds of 64 bits is never too long for a delay. -/
theorem total_ofMillis {n : Nat} (h : n < 2 ^ 64) : (Delay.ofMillis n).total = n * 10 ^ 6 := by
  have hshift : n / 1000 < 1 <<< 64 := by
    rw [Nat.shiftLeft_eq]
    omega
  unfold Delay.ofMillis Delay.total
  rw [dif_pos hshift]
  simp only
  omega

/-- A number of seconds that a span can have is stored. -/
theorem isStored_of_le_secondsLimit {n : Int} (h : n.natAbs ≤ Span.secondsLimit) : IsStored n := by
  unfold Span.secondsLimit at h
  unfold IsStored leastStored greatestStored
  omega

/-- A number of seconds makes a span up to the limit to either side, and then the span of so many
seconds. -/
theorem ofSeconds?_eq_some_iff {n : Int} {span : Span} :
    Span.ofSeconds? n = some span
      ↔ n.natAbs ≤ Span.secondsLimit ∧ span.nanos = n * 10 ^ 9 := by
  unfold Span.ofSeconds?
  split
  · next hlimit =>
    obtain ⟨nanos⟩ := span
    simp only [Span.ofSeconds, Option.some.injEq, Span.mk.injEq, hlimit, true_and]
    exact eq_comm
  · next hlimit => exact ⟨nofun, fun h => absurd h.1 hlimit⟩

/-- Both steps together. Whatever a span can have is stored, so the reader of 64 bits does not
refuse it on the way. -/
theorem readSpan?_eq_some_iff {s : List Char} {span : Span} :
    (readInt? leastStored greatestStored s).bind Span.ofSeconds? = some span
      ↔ ∃ n : Int, SpellsInt s n ∧ n.natAbs ≤ Span.secondsLimit ∧ span.nanos = n * 10 ^ 9 := by
  simp only [Option.bind_eq_some_iff, readInt?_eq_some_iff, ofSeconds?_eq_some_iff]
  constructor
  · rintro ⟨n, ⟨hspells, -⟩, hspan⟩
    exact ⟨n, hspells, hspan⟩
  · rintro ⟨n, hspells, hlimit, hspan⟩
    exact ⟨n, ⟨hspells, isStored_of_le_secondsLimit hlimit⟩, hlimit, hspan⟩

/-- A number of milliseconds that has room in 64 bits is read as that delay; none of them is too
long. -/
theorem readDelay?_eq_some_iff {s : List Char} {d : Delay} :
    (readBits 64 s).map Delay.ofMillis = some d
      ↔ ∃ n : Nat, SpellsNat s n ∧ n < 2 ^ 64 ∧ d.total = n * 10 ^ 6 := by
  simp only [Option.map_eq_some_iff, readBits_eq_some_iff, and_assoc]
  refine exists_congr fun n => and_congr_right fun _ => and_congr_right fun hn => ?_
  rw [← total_ofMillis hn]
  exact ⟨fun h => h ▸ rfl, fun h => Delay.eq_of_total_eq h.symm⟩

/-- For each kind of variable, the reader accepts what spells a value and nothing else. `Spells`
does not mention the readers, so this is what they mean. -/
theorem Kind.read?_eq_some_iff (k : Kind) (s : String) (value : k.Value) :
    k.read? s = some value ↔ k.Spells s value := by
  cases k with
  | text => simp [read?, Spells, eq_comm]
  | count => exact readBits_eq_some_iff
  | format =>
    rw [Spells, ← TokenFormat.parse_eq_ok_iff, read?, String.ofList_toList]
    cases TokenFormat.parse s <;> simp [Except.toOption]
  | duration => exact readSpan?_eq_some_iff
  | delay => exact readDelay?_eq_some_iff

/-! ## Variables -/

/-- The variables that override settings. -/
inductive Variable where
  | databaseUrl
  | maxConnections
  | administrator
  | logLevel
  | symmetricKey
  | format
  | accessDuration
  | refreshDuration
  | maxRetries
  | retryBackoff
  | lockTimeout
  deriving DecidableEq

namespace Variable

def name : Variable → String
  | databaseUrl => "DATABASE_URL"
  | maxConnections => "DATABASE_MAX_CONNECTIONS"
  | administrator => "ADMIN_USERNAME"
  | logLevel => "LOG_LEVEL"
  | symmetricKey => "TOKEN_SYMMETRIC_KEY"
  | format => "TOKEN_MAKER"
  | accessDuration => "ACCESS_TOKEN_DURATION_SECS"
  | refreshDuration => "REFRESH_TOKEN_DURATION_SECS"
  | maxRetries => "TRANSFER_MAX_RETRIES"
  | retryBackoff => "TRANSFER_RETRY_BACKOFF_MS"
  | lockTimeout => "LOCK_TIMEOUT_MS"

def kind : Variable → Kind
  | databaseUrl | administrator | logLevel | symmetricKey => .text
  | maxConnections | maxRetries => .count
  | format => .format
  | accessDuration | refreshDuration => .duration
  | retryBackoff | lockTimeout => .delay

/-- The setting that a variable stands for. -/
def of (c : Settings) : (v : Variable) → v.kind.Value
  | databaseUrl => c.databaseUrl
  | maxConnections => c.maxConnections
  | administrator => c.administrator
  | logLevel => c.logLevel
  | symmetricKey => c.symmetricKey
  | format => c.format
  | accessDuration => c.accessDuration
  | refreshDuration => c.refreshDuration
  | maxRetries => c.transfer.maxRetries
  | retryBackoff => c.transfer.retryBackoff
  | lockTimeout => c.transfer.lockTimeout

/-- No two variables have the same name. There are eleven, and all pairs of them are compared. -/
theorem name_injective : Function.Injective name := by
  intro v w h
  cases v <;> cases w <;> first | rfl | exact absurd h (by decide)

end Variable

/-- Settings are the eleven that variables stand for. -/
theorem eq_of_variables {c d : Settings} (h : ∀ v : Variable, v.of c = v.of d) : c = d := by
  obtain ⟨_, _, _, _, _, _, _, _, ⟨_, _, _⟩⟩ := c
  obtain ⟨_, _, _, _, _, _, _, _, ⟨_, _, _⟩⟩ := d
  have := h .databaseUrl
  simp only [Settings.mk.injEq, TransferPolicy.mk.injEq]
  exact ⟨h .databaseUrl, h .maxConnections, h .administrator, h .logLevel, h .symmetricKey,
    h .format, h .accessDuration, h .refreshDuration, h .maxRetries, h .retryBackoff,
    h .lockTimeout⟩

/-! ## Loading -/

variable {env : Environment} {c : Settings}

/-- What the environment says about the setting of a variable, or else the default. -/
def chosen (env : Environment) (v : Variable) : v.kind.Value :=
  ((env v.name).bind v.kind.read?).getD (v.of {})

/-- A variable that is set to a text which spells a value is that value. -/
theorem chosen_of_spells {v : Variable} {text : String} {value : v.kind.Value}
    (hset : env v.name = some text) (h : v.kind.Spells text value) : chosen env v = value := by
  rw [chosen, hset, Option.bind_some, (v.kind.read?_eq_some_iff text value).mpr h,
    Option.getD_some]

/-- A variable that is not set, or set to something that spells no value, is the default. -/
theorem chosen_of_not_spells {v : Variable}
    (h : ∀ text, env v.name = some text → ∀ value, ¬ v.kind.Spells text value) :
    chosen env v = v.of {} := by
  have hnone : (env v.name).bind v.kind.read? = none := by
    rw [Option.bind_eq_none_iff]
    intro text hset
    rw [Option.eq_none_iff_forall_not_mem]
    intro value hread
    exact h text hset value ((v.kind.read?_eq_some_iff text value).mp hread)
  rw [chosen, hnone, Option.getD_none]

/-- Loading a duration fails for one reason: the text is a number that is stored, but too long for a
span. -/
theorem spanSetting_eq_none_iff {name : String} {default : Span} :
    spanSetting env name default = none
      ↔ ∃ text, env name = some text ∧ Kind.TooLong text := by
  unfold spanSetting Kind.TooLong
  split
  · next n hread =>
    obtain ⟨text, hset, hn⟩ := Option.bind_eq_some_iff.mp hread
    obtain ⟨hspells, hstored⟩ := readInt?_eq_some_iff.mp hn
    have hnone : Span.ofSeconds? n = none ↔ Span.secondsLimit < n.natAbs := by
      unfold Span.ofSeconds?
      simp
    rw [hnone]
    constructor
    · intro hlong
      exact ⟨text, hset, n, hspells, hstored, hlong⟩
    · -- a text spells one integer at most, so this is the one that was read
      rintro ⟨text', hset', m, hspells', hstored', hlong⟩
      obtain rfl : text = text' := Option.some.inj (hset.symm.trans hset')
      have hm := readInt?_eq_some_iff.mpr ⟨hspells', hstored'⟩
      obtain rfl : n = m := Option.some.inj (hn.symm.trans hm)
      exact hlong
  · next hread =>
    refine ⟨nofun, ?_⟩
    rintro ⟨text, hset, n, hspells, hstored, -⟩
    rw [hset, Option.bind_some, readInt?_eq_some_iff.mpr ⟨hspells, hstored⟩] at hread
    exact absurd hread nofun

/-- Otherwise the duration is what the text spells, or else the default. -/
theorem spanSetting_eq_some {name : String} {default span : Span}
    (h : spanSetting env name default = some span) :
    span = ((env name).bind (Kind.read? .duration)).getD default := by
  unfold spanSetting at h
  have hread : (env name).bind (Kind.read? .duration)
      = ((env name).bind fun text => readInt? leastStored greatestStored text.toList).bind
        Span.ofSeconds? := by
    rw [Option.bind_assoc]
    rfl
  rw [hread]
  split at h
  · next n hn =>
    rw [hn, Option.bind_some, h, Option.getD_some]
  · next hn =>
    rw [hn, Option.bind_none, Option.getD_none]
    exact (Option.some.inj h).symm

/-- The law of loading, variable by variable: a setting is what the environment says of its
variable, or else its default. -/
theorem of_eq_chosen (h : ofEnvironment? env = some c) (v : Variable) : v.of c = chosen env v := by
  unfold ofEnvironment? at h
  simp only [Option.bind_eq_bind, Option.bind_eq_some_iff, Option.pure_def,
    Option.some.injEq] at h
  obtain ⟨access, haccess, refresh, hrefresh, rfl⟩ := h
  cases v with
  | accessDuration => exact spanSetting_eq_some haccess
  | refreshDuration => exact spanSetting_eq_some hrefresh
  | databaseUrl | administrator | logLevel | symmetricKey | maxConnections | maxRetries | format
  | retryBackoff | lockTimeout => rfl

/-- Loading as a whole fails if it fails for one of the two durations; no other kind of variable can
make it fail. -/
theorem ofEnvironment?_eq_none_iff : ofEnvironment? env = none
    ↔ ∃ v : Variable, v.kind = .duration ∧ ∃ text, env v.name = some text ∧ Kind.TooLong text := by
  -- the two durations are all that loading waits for
  have hspans : ofEnvironment? env = none
      ↔ spanSetting env "ACCESS_TOKEN_DURATION_SECS" ({} : Settings).accessDuration = none
        ∨ spanSetting env "REFRESH_TOKEN_DURATION_SECS" ({} : Settings).refreshDuration = none := by
    unfold ofEnvironment?
    simp only [Option.bind_eq_bind]
    cases spanSetting env "ACCESS_TOKEN_DURATION_SECS" ({} : Settings).accessDuration with
    | none => simp
    | some access =>
      cases spanSetting env "REFRESH_TOKEN_DURATION_SECS" ({} : Settings).refreshDuration with
      | none => simp
      | some refresh => simp
  rw [hspans, spanSetting_eq_none_iff, spanSetting_eq_none_iff]
  constructor
  · rintro (hlong | hlong)
    · exact ⟨.accessDuration, rfl, hlong⟩
    · exact ⟨.refreshDuration, rfl, hlong⟩
  · rintro ⟨v, hkind, hlong⟩
    cases v <;> first | exact .inl hlong | exact .inr hlong | cases hkind

/-- A variable that spells no value and is not too long might as well be unset. -/
theorem ofEnvironment?_unset {v : Variable} {text : String} (hset : env v.name = some text)
    (hnone : ∀ value, ¬ v.kind.Spells text value)
    (hlong : ¬ (v.kind = .duration ∧ Kind.TooLong text)) :
    ofEnvironment? env = ofEnvironment? (Function.update env v.name none) := by
  -- the other variables are as they were
  have hother : ∀ w : Variable, w ≠ v → Function.update env v.name none w.name = env w.name :=
    fun w hne => Function.update_of_ne (fun hname => hne (Variable.name_injective hname)) _ _
  have hfails : ofEnvironment? env = none
      ↔ ofEnvironment? (Function.update env v.name none) = none := by
    rw [ofEnvironment?_eq_none_iff, ofEnvironment?_eq_none_iff]
    refine exists_congr fun w => and_congr_right fun hkind => ?_
    by_cases hw : w = v
    · subst hw
      rw [hset, Function.update_self]
      constructor
      · rintro ⟨other, hother, hlong'⟩
        obtain rfl := Option.some.inj hother
        exact absurd ⟨hkind, hlong'⟩ hlong
      · rintro ⟨other, hother, -⟩
        exact absurd hother nofun
    · rw [hother w hw]
  rcases h : ofEnvironment? env with _ | c
  · exact (hfails.mp h).symm
  · obtain ⟨d, hd⟩ : ∃ d, ofEnvironment? (Function.update env v.name none) = some d := by
      rw [← Option.ne_none_iff_exists', Ne, ← hfails, h]
      exact nofun
    rw [hd, Option.some.injEq]
    -- without the variable its setting is the default, and it was the default with it
    refine eq_of_variables fun w => ?_
    rw [of_eq_chosen h w, of_eq_chosen hd w]
    by_cases hw : w = v
    · subst hw
      rw [chosen_of_not_spells, chosen_of_not_spells]
      · rintro other hother
        rw [Function.update_self] at hother
        exact absurd hother nofun
      · intro other hother
        obtain rfl := Option.some.inj (hset.symm.trans hother)
        exact hnone
    · rw [chosen, chosen, hother w hw]

/-- What an environment says about the settings. -/
structure Loads (env : Environment) : Prop where
  /-- Loading fails for a duration that is too long, and for nothing else. -/
  fails_iff : ofEnvironment? env = none ↔
    ∃ v : Variable, v.kind = .duration ∧ ∃ text, env v.name = some text ∧ Kind.TooLong text
  /-- A variable that spells a value of its setting sets it. -/
  sets : ∀ c, ofEnvironment? env = some c → ∀ (v : Variable) text value,
    env v.name = some text → v.kind.Spells text value → v.of c = value
  /-- A variable that is not set, or spells no value, leaves the default. -/
  leaves : ∀ c, ofEnvironment? env = some c → ∀ v : Variable,
    (∀ text, env v.name = some text → ∀ value, ¬ v.kind.Spells text value) → v.of c = v.of {}
  /-- Whatever else two environments say, settings on whose variables they agree are the same. -/
  alone : ∀ c, ofEnvironment? env = some c → ∀ env' c', ofEnvironment? env' = some c' →
    ∀ v : Variable, env v.name = env' v.name → v.of c = v.of c'
  /-- To set, change or unset one variable changes no setting but its own. -/
  apart : ∀ c, ofEnvironment? env = some c → ∀ (v : Variable) text c',
    ofEnvironment? (Function.update env v.name text) = some c' → ∀ w ≠ v, w.of c' = w.of c
  /-- A variable that spells no value and is not too long might as well be unset. -/
  unusable : ∀ (v : Variable) text, env v.name = some text →
    (∀ value, ¬ v.kind.Spells text value) → ¬ (v.kind = .duration ∧ Kind.TooLong text) →
    ofEnvironment? env = ofEnvironment? (Function.update env v.name none)

/-- Each setting is what its own variable says, if loading does not fail. -/
theorem loads (env : Environment) : Loads env where
  fails_iff := ofEnvironment?_eq_none_iff
  sets c h v text value hset hspells := by
    rw [of_eq_chosen h v]
    exact chosen_of_spells hset hspells
  leaves c h v hnone := by
    rw [of_eq_chosen h v]
    exact chosen_of_not_spells hnone
  alone c h env' c' h' v hagree := by
    rw [of_eq_chosen h v, of_eq_chosen h' v, chosen, chosen, hagree]
  apart c h v text c' h' w hne := by
    have hname : w.name ≠ v.name := fun hname => hne (Variable.name_injective hname)
    rw [of_eq_chosen h w, of_eq_chosen h' w, chosen, chosen, Function.update_of_ne hname]
  unusable _ _ hset hnone hlong := ofEnvironment?_unset hset hnone hlong

/-- A number of seconds that fits 64 bits and is too long for a span is not like none at all. -/
theorem ofEnvironment?_of_endless_access :
    ofEnvironment? (Function.update (fun _ => none) "ACCESS_TOKEN_DURATION_SECS"
      (some "9223372036854776")) = none ∧ ofEnvironment? (fun _ => none) = some {} := by
  decide +kernel

end Settings

end CountingHouse
