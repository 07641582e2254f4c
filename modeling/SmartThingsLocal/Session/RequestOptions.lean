import SmartThingsLocal.Coap.Exchange

/-!
# The caller's options

`_validated_text_options` and `_validated_extra_options`: the paths, query values
and extension options a request method accepts from its caller. Each returns the
values it was given.
-/

namespace SmartThingsLocal

namespace Session

def maxRequestOptionBytes : ℕ := 1024
def maxRequestOptionCount : ℕ := 32
def maxRequestOptionNumber : ℕ := 65535

/-- The options the request methods set themselves. -/
def managedRequestOptions : List ℕ :=
  [Coap.uriPath, Coap.uriQuery, Coap.observe, Coap.contentFormat, Coap.accept, Coap.block2,
    Coap.block1, Coap.size2, Coap.size1]

/-- The loop of `_validated_text_options` after `count` values. A string always has an encoding. -/
def textOptionsFrom (name : String) (allowEmpty : Bool) :
    ℕ → List String → Except PythonError (List String)
  | _, [] => .ok []
  | count, value :: rest =>
      if count ≥ maxRequestOptionCount then
        .error (.valueError (name ++ " must contain at most 32 values"))
      else
        let encoded := optionBytesOf value
        if (allowEmpty = false ∧ encoded = []) ∨ encoded.length > maxRequestOptionBytes then
          .error (.valueError (name ++ " values must be non-empty and bounded"))
        else (textOptionsFrom name allowEmpty (count + 1) rest).map (value :: ·)

def validatedTextOptions (values : List String) (name : String) (allowEmpty : Bool) :
    Except PythonError (List String) :=
  textOptionsFrom name allowEmpty 0 values

/-- The loop of `_validated_extra_options` after `count` options, the last numbered `previous`. -/
def extraOptionsFrom : ℕ → ℕ → List CoapOption → Except PythonError (List CoapOption)
  | _, _, [] => .ok []
  | count, previous, (number, value) :: rest =>
      if count ≥ maxRequestOptionCount then
        .error (.valueError "extra_options must contain at most 32 values")
      else if ¬(1 ≤ number ∧ number ≤ maxRequestOptionNumber) then
        .error (.valueError "extra option numbers must be bounded")
      else if number < previous then
        .error (.valueError "extra options must be ordered by number")
      else if number ∈ managedRequestOptions then
        .error (.valueError "extra option is managed by the CoAP transport")
      else if value.length > maxRequestOptionBytes then
        .error (.valueError "extra option values must be bounded")
      else (extraOptionsFrom (count + 1) number rest).map ((number, value) :: ·)

def validatedExtraOptions (extraOptions : List CoapOption) : Except PythonError (List CoapOption) :=
  extraOptionsFrom 0 0 extraOptions

theorem textOptionsFrom_ok {name : String} {allowEmpty : Bool} {count : ℕ}
    {values result : List String}
    (accepted : textOptionsFrom name allowEmpty count values = .ok result) :
    result = values ∧ ∀ value ∈ values, (optionBytesOf value).length ≤ maxRequestOptionBytes := by
  induction values generalizing count result with
  | nil =>
      cases accepted
      simp
  | cons value rest ih =>
      simp only [textOptionsFrom, Fallible.ite_error_eq_ok, Fallible.map_eq_ok] at accepted
      rcases accepted with ⟨_, bounded, tail, tailAccepted, rfl⟩
      rcases ih tailAccepted with ⟨rfl, tailBounded⟩
      refine ⟨rfl, List.forall_mem_cons.mpr ⟨?_, tailBounded⟩⟩
      exact not_lt.mp fun long => bounded (.inr long)

/-- An accepted value is not empty where that is not allowed. -/
theorem textOptionsFrom_nonempty {name : String} {count : ℕ} {values result : List String}
    (accepted : textOptionsFrom name false count values = .ok result) :
    ∀ value ∈ values, optionBytesOf value ≠ [] := by
  induction values generalizing count result with
  | nil => exact nofun
  | cons value rest ih =>
      simp only [textOptionsFrom, Fallible.ite_error_eq_ok, Fallible.map_eq_ok] at accepted
      rcases accepted with ⟨_, bounded, tail, tailAccepted, _⟩
      refine List.forall_mem_cons.mpr ⟨?_, ih tailAccepted⟩
      exact fun empty => bounded (.inl ⟨trivial, empty⟩)

/-- Accepted extension options are encodable and none is managed. -/
theorem extraOptionsFrom_ok {count previous : ℕ} {options result : List CoapOption}
    (accepted : extraOptionsFrom count previous options = .ok result) :
    result = options ∧ ∀ option ∈ options, option.1 ≤ maxRequestOptionNumber ∧
      option.1 ∉ managedRequestOptions ∧ option.2.length ≤ maxRequestOptionBytes := by
  induction options generalizing count previous result with
  | nil =>
      cases accepted
      simp
  | cons option rest ih =>
      rcases option with ⟨number, value⟩
      simp only [extraOptionsFrom, Fallible.ite_error_eq_ok, Fallible.map_eq_ok] at accepted
      rcases accepted with ⟨_, inRange, _, unmanaged, bounded, tail, tailAccepted, rfl⟩
      rcases ih tailAccepted with ⟨rfl, tailValid⟩
      refine ⟨rfl, List.forall_mem_cons.mpr ⟨⟨?_, unmanaged, not_lt.mp bounded⟩, tailValid⟩⟩
      exact (not_not.mp inRange).2

end Session

end SmartThingsLocal
