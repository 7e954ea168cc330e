import EcpAgreement.Curve.Group
import EcpAgreement.Proofs.Bare.Curve
import EcpAgreement.Random.Scalar

/-!
# Groups without bounds

Groups as their numbers alone, with everything that is asked of a group.  The width
of a scalar, the excess of its first octet and the halves of a public value are
computed from those numbers, and nothing is known of the arguments: points and
scalars may have come from anywhere, and strings may have any length.

No operation on a constructed group is ever left without a result, and a construction
is so in one case only: the bits of its modulus are too many to be counted, and the
build checks this (`never_stuck`).  What each step relies on was established elsewhere:
the bit length bounds the length that a string is cut to, an order above one has a
lowest octet, the width of a scalar is the least that holds the order, and the bits of
a modulus were counted before anything is computed with it.
-/

namespace EcpAgreement.Bare

open Evaluation

/-! ## Groups on explicit curves -/

/-- A curve with a generator and its declared order. -/
structure Group where
  name : String
  curve : Curve
  generator : Point
  order : Octets
  orderBits : ℕ
  cofactor : ℕ

/-- The numbers of a group. -/
abbrev Group.of (group : ExplicitGroup) : Group where
  name := group.name
  curve := .of group.curve
  generator := group.generator
  order := group.order
  orderBits := group.orderBits
  cofactor := group.cofactor

/-- The group of a curve with a generator and its declared order. -/
def Curve.withGenerator [OverflowChecks] (curve : Curve) (name : String) (generator : Point)
    (order : Octets) (cofactor : ℕ) : Evaluation CurveError Group := do
  CurveError.requireParameter (cofactor == 1) "cofactor" "only prime-order groups are supported"
  CurveError.requireParameter (← curve.contains generator) "generator" "not a point on the curve"
  let orderBits ← bitLength order
  CurveError.requireParameter (decide (1 < orderBits)) "q" "group order must exceed 1"
  let order ← suffix order (Octets.octetsFor orderBits)
  let lowest ← (order[← minus order.length 1]? : Option UInt8)
  CurveError.requireParameter (lowest &&& 1 == 1) "q" "group order must be odd"
  return {
    name := name
    curve := curve
    generator := generator
    order := order
    orderBits := orderBits
    cofactor := cofactor }

/-- The multiple of a point by the declared order. -/
def Group.mulByOrder [OverflowChecks] (group : Group) (point : Point) :
    Evaluation CurveError Point :=
  group.curve.multiple point group.order

/-- Builds the group that a table describes, in three stages. -/
def build [OverflowChecks] (params : DomainParams) :
    Option (Logged (Except AgreementError Group)) := do
  match ← (Curve.ofOctets params.p params.a params.b).run with
  | .error e =>
      return {
        value := .error (.groupConstruction params.name "invalid curve parameters")
        events := [.curveRejected params.name e] }
  | .ok curve =>
      match ← (curve.point params.x params.y).run with
      | .error e =>
          return {
            value := .error (.groupConstruction params.name "generator is not on the curve")
            events := [.generatorRejected params.name e] }
      | .ok generator =>
          match ← (curve.withGenerator params.name generator params.q params.cofactor).run with
          | .error e =>
              return {
                value :=
                  .error (.groupConstruction params.name "invalid generator order or cofactor")
                events := [.assignmentRejected params.name e] }
          | .ok group =>
              return {
                value := .ok group
                events := [.constructed params.name] }

/-- The lowest octet of a string says whether the string's number is odd. -/
theorem exists_lowest {s : Octets} (h : 0 < s.length) :
    ∃ o, s[s.length - 1]? = some o ∧ (o &&& 1 == 1) = decide (s.value % 2 = 1) := by
  obtain ⟨init, o, rfl⟩ := (List.eq_nil_or_concat s).resolve_left (List.ne_nil_of_length_pos h)
  rw [List.concat_eq_append]
  refine ⟨o, by simp, ?_⟩
  have hvalue : Octets.value (init ++ [o]) % 2 = o.toNat % 2 := by
    have hlast : Octets.value [o] = o.toNat := by simp [Octets.value]
    rw [Octets.value_append, hlast, List.length_singleton]
    omega
  rw [hvalue, and_one_beq]

/-- An order above one keeps an octet, whose lowest bit tells whether it is odd. -/
theorem withGenerator_of [OverflowChecks] {curve : PrimeCurve}
    (h : curve.field.width + 7 < 2 ^ 29) (name : String) (P : Point) (q : Octets)
    (cofactor : ℕ) :
    (Curve.of curve).withGenerator name P q cofactor =
      result ((curve.withGenerator name P q cofactor).map Group.of) := by
  simp only [Curve.withGenerator, PrimeCurve.withGenerator, Curve.contains_of h, bitLength_eq,
    CurveError.requireParameter, liftM_some, liftM_except, ok_bind]
  by_cases hcofactor : cofactor = 1
  · by_cases hcontains : curve.contains P = true
    · by_cases hbits : 1 < q.bitLength
      · have hwidth : Octets.octetsFor q.bitLength = q.significantLength := rfl
        have hsuffix := suffix_of_le q.significantLength_le
        have hpos : 0 < (q.suffix q.significantLength q.significantLength_le).length := by
          rw [Octets.length_suffix, ← hwidth, Octets.octetsFor]
          omega
        obtain ⟨lowest, hlowest, hodd⟩ := exists_lowest hpos
        rw [Octets.value_suffix_significantLength] at hodd
        have horderBits : (q.suffix q.significantLength q.significantLength_le).bitLength =
            q.bitLength := by
          rw [Octets.suffix_significantLength, Octets.bitLength_significant]
        simp only [hcofactor, hcontains, hbits, hwidth, hsuffix, minus_of_le hpos, hlowest, hodd,
          liftM_some, ok_bind]
        by_cases hq : q.value % 2 = 1
        · simp [hq, Except.map, Group.of, ExplicitGroup.orderBits, horderBits]
        · simp [hq, Except.map]
      · simp [hcofactor, hcontains, hbits, Except.map]
    · simp [hcofactor, hcontains, Except.map]
  · simp [hcofactor, Except.map]

theorem build_of_not_overflows [OverflowChecks] {params : DomainParams}
    (h : ¬Overflows params.p) :
    build params =
      some { value := params.build.value.map Group.of, events := params.build.events } := by
  rw [build, DomainParams.build, Curve.ofOctets_of_not_overflows h]
  cases hcurve : PrimeCurve.ofOctets params.p params.a params.b with
  | error e => rfl
  | ok curve =>
      have hwidth := Curve.width_of_ofOctets hcurve
      simp only [Except.map, run_result, Option.bind_eq_bind, Option.bind_some,
        Curve.point_of hwidth]
      cases curve.point params.x params.y with
      | error e => rfl
      | ok generator =>
          simp only [withGenerator_of hwidth, run_result, Option.bind_some]
          cases curve.withGenerator params.name generator params.q params.cofactor with
          | error e => rfl
          | ok group => rfl

theorem build_of_overflows [OverflowChecks] {params : DomainParams} (h : Overflows params.p) :
    build params = none := by
  rw [build, Curve.ofOctets_of_overflows h]
  rfl

/-! ## Groups of both kinds -/

/-- A group of a curve with arithmetic of its own, or one on an explicit curve. -/
inductive AnyGroup where
  | builtIn (group : BuiltInGroup)
  | explicit (group : Group)

namespace AnyGroup

/-- The numbers of a group. -/
abbrev of : CurveGroup → AnyGroup
  | .builtIn group => .builtIn group
  | .explicit group => .explicit (.of group)

/-! ### Arithmetic of a curve's own -/

/-- The string as the curve takes it. -/
def fieldOctets (group : BuiltInGroup) (s : Octets) : Evaluation CurveError Octets := do
  group.requireWidth s
  copy s group.curve.width

/-- The residues of a point. -/
def residues (group : BuiltInGroup) (point : Point) :
    Evaluation CurveError (Fin group.curve.size × Fin group.curve.size) := do
  let (x, y) ← point.coordinates
  let x ← fieldOctets group x
  let y ← fieldOctets group y
  if x.value < group.curve.size ∧ y.value < group.curve.size then
    let u ← residue group.curve.size x.value
    let v ← residue group.curve.size y.value
    if group.curve.satisfies u v then
      return (u, v)
  throw (.invalidPoint group.params.name)

/-- The number of a scalar. -/
def multiplier (group : BuiltInGroup) (k : Scalar) : Evaluation CurveError ℕ := do
  let s ← fieldOctets group k.octets
  if 0 < s.value ∧ s.value < group.curve.order then
    return s.value
  else
    throw (.scalarRange group.params.name)

theorem fieldOctets_bind {α : Type} {group : BuiltInGroup} {s : Octets}
    {f : Octets → Evaluation CurveError α} {g : Unit → Except CurveError α}
    (h : f s = result (g ())) :
    fieldOctets group s >>= f = result (group.requireWidth s >>= g) := by
  rw [fieldOctets, BuiltInGroup.requireWidth, CurveError.requireLength]
  split
  · rename_i hlength
    rw [copy_of_length_eq hlength]
    exact h
  · rfl

theorem residues_eq (group : BuiltInGroup) (P : Point) :
    residues group P = result (group.residues P) := by
  cases P with
  | identity => rfl
  | affine x y =>
      apply fieldOctets_bind
      apply fieldOctets_bind
      by_cases h : x.value < group.curve.size ∧ y.value < group.curve.size
      · simp only [if_pos h, dif_pos h, residue_of_lt h.1, residue_of_lt h.2, liftM_some, ok_bind]
        split
        · rfl
        · rfl
      · simp only [if_neg h, dif_neg h]
        rfl

theorem multiplier_eq (group : BuiltInGroup) (k : Scalar) :
    multiplier group k = result (group.multiplier k) := by
  apply fieldOctets_bind
  split
  · rfl
  · rfl

/-! ### What is asked of a group -/

/-- The octets of one coordinate. -/
def fieldElementLength : AnyGroup → ℕ
  | builtIn group => group.params.fieldElementLength
  | explicit group => group.curve.field.width

/-- The bits of the order. -/
def orderBits : AnyGroup → Option ℕ
  | builtIn group => bitLength group.params.q
  | explicit group => some group.orderBits

/-- The octets of a scalar. -/
def orderLength (group : AnyGroup) : Option ℕ := do
  return Octets.octetsFor (← group.orderBits)

/-- The point with the given coordinates, if it is on the curve. -/
def pointOfAffine [OverflowChecks] (group : AnyGroup) (x y : Octets) :
    Evaluation CurveError Point :=
  match group with
  | builtIn group => do
      let _ ← residues group (.affine x y)
      return .affine x y
  | explicit group => group.curve.point x y

/-- Whether a point is on the curve. -/
def contains [OverflowChecks] (group : AnyGroup) (point : Point) : Option Bool :=
  match group with
  | builtIn group => do return (← (residues group point).run).isOk
  | explicit group => group.curve.contains point

/-- The scalar that a string writes. -/
def scalar (group : AnyGroup) (s : Octets) : Evaluation CurveError Scalar :=
  match group with
  | builtIn group => belowOrder s group.params.q group.params.name
  | explicit group => belowOrder s group.order group.name

/-- The multiple of a point by a scalar. -/
def mul [OverflowChecks] (group : AnyGroup) (point : Point) (k : Scalar) :
    Evaluation CurveError Point :=
  match group with
  | builtIn group =>
      match point with
      | .identity => return .identity
      | .affine _ _ => do
          let (x, y) ← residues group point
          let n ← multiplier group k
          return group.ofAffine (group.curve.multiple n (.finite x y))
  | explicit group => group.curve.multiple point k.octets

/-- The multiple of the generator by a scalar. -/
def mulGenerator [OverflowChecks] (group : AnyGroup) (k : Scalar) : Evaluation CurveError Point :=
  match group with
  | builtIn group => do
      let n ← multiplier group k
      return group.ofAffine (group.curve.multiple n group.curve.generator)
  | explicit group => group.curve.multiple group.generator k.octets

/-- Draws a scalar of a length under a mask, in at most the given number of
attempts. -/
def randomScalarWithin {σ : Type} [RandomSource σ] (group : AnyGroup) (length : ℕ)
    (mask : UInt8) : ℕ → σ → Option (Except CurveError Scalar × σ)
  | 0, source =>
      some (.error (.randomGeneration "scalar generation exhausted its attempts"), source)
  | attempts + 1, source =>
      match RandomSource.draw source length with
      | (none, source) => some (.error (.randomGeneration "scalar generation"), source)
      | (some s, source) => do
          match ← (group.scalar (← maskFirst s.val mask)).run with
          | .ok k => return (.ok k, source)
          | .error _ => group.randomScalarWithin length mask attempts source

def randomScalar {σ : Type} [RandomSource σ] (group : AnyGroup) (source : σ) :
    Option (Except CurveError Scalar × σ) := do
  let length ← group.orderLength
  let excess ← minus (length * 8) (← group.orderBits)
  let mask ← shiftRight 0xFF excess
  group.randomScalarWithin length mask maxScalarAttempts source

/-- Reads a public value. -/
def decode [OverflowChecks] (group : AnyGroup) (value : Octets) :
    Evaluation ExchangeError Point := do
  ExchangeError.requireLength "ECDH public value" value.length (2 * group.fieldElementLength)
  let (x, y) ← split value group.fieldElementLength
  match ← (group.pointOfAffine x y).run with
  | .ok point => return point
  | .error _ => throw (.invalidPoint "ECDH public value")

/-- Writes a point, both coordinates or the first alone. -/
def encode (group : AnyGroup) (point : Point) (xOnly : Bool) :
    Evaluation ExchangeError Secret := do
  let (x, y) ← point.coordinates.mapError CurveError.toExchange
  let some x ← leftPad? x group.fieldElementLength
    | throw (.arithmeticFailure "x-coordinate wider than field")
  if xOnly then
    return ⟨x⟩
  let some y ← leftPad? y group.fieldElementLength
    | throw (.arithmeticFailure "y-coordinate wider than field")
  return ⟨x ++ y⟩

variable {group : CurveGroup}

/-- The bits of the modulus are counted, where a group has a modulus of its own. -/
def Counted : CurveGroup → Prop
  | .builtIn _ => True
  | .explicit group => group.curve.field.width + 7 < 2 ^ 29

theorem fieldElementLength_of (group : CurveGroup) :
    (of group).fieldElementLength = group.fieldElementLength := by
  cases group with
  | builtIn group => rfl
  | explicit group => rfl

theorem orderBits_of (group : CurveGroup) : (of group).orderBits = some group.orderBits := by
  cases group with
  | builtIn group => exact bitLength_eq group.params.q
  | explicit group => rfl

theorem orderLength_of (group : CurveGroup) :
    (of group).orderLength = some group.orderLength := by
  rw [orderLength, orderBits_of]
  rfl

theorem pointOfAffine_of [OverflowChecks] (h : Counted group) (x y : Octets) :
    (of group).pointOfAffine x y = result (group.pointOfAffine x y) := by
  cases group with
  | builtIn group =>
      rw [pointOfAffine, residues_eq]
      exact result_bind fun _ _ => rfl
  | explicit group => exact Curve.point_of h x y

theorem contains_of [OverflowChecks] (h : Counted group) (P : Point) :
    (of group).contains P = some (group.contains P) := by
  cases group with
  | builtIn group =>
      rw [contains, residues_eq]
      rfl
  | explicit group => exact Curve.contains_of h P

theorem scalar_of (s : Octets) : (of group).scalar s = result (group.scalar s) := by
  cases group with
  | builtIn group => exact belowOrder_eq _ _ _
  | explicit group => exact belowOrder_eq _ _ _

theorem mul_of [OverflowChecks] (h : Counted group) (P : Point) (k : Scalar) :
    (of group).mul P k = result (group.mul P k) := by
  cases group with
  | builtIn group =>
      cases P with
      | identity => rfl
      | affine x y =>
          rw [mul, residues_eq, multiplier_eq]
          apply result_bind
          intro _ _
          exact result_bind fun _ _ => rfl
  | explicit group => exact Curve.multiple_of h P k.octets

theorem mulGenerator_of [OverflowChecks] (h : Counted group) (k : Scalar) :
    (of group).mulGenerator k = result (group.mulGenerator k) := by
  cases group with
  | builtIn group =>
      rw [mulGenerator, multiplier_eq]
      exact result_bind fun _ _ => rfl
  | explicit group => exact Curve.multiple_of h group.generator k.octets

theorem randomScalarWithin_of {σ : Type} [RandomSource σ] (h : 0 < group.orderLength)
    (attempts : ℕ) (source : σ) :
    (of group).randomScalarWithin group.orderLength (Octets.topMask group.excessBits)
        attempts source =
      some (group.randomScalarWithin attempts source) := by
  induction attempts generalizing source with
  | zero => rfl
  | succ attempts ih =>
      rw [randomScalarWithin, CurveGroup.randomScalarWithin]
      match RandomSource.draw source group.orderLength with
      | (none, source) => rfl
      | (some s, source) =>
          have hfirst : 0 < s.val.length := by
            rw [s.property]
            exact h
          have hmask := maskFirst_eq hfirst group.excessBits
          simp only [hmask, scalar_of, CurveGroup.scalarOfDraw, run_result, Option.bind_eq_bind,
            Option.bind_some]
          cases group.scalar (s.val.clearTop group.excessBits) with
          | ok k => rfl
          | error e => exact ih source

/-- The width of a scalar leaves less than an octet unused, so that the mask can be
made, and the drawn string has a first octet to put it on. -/
theorem randomScalar_of {σ : Type} [RandomSource σ] (h : 0 < group.orderLength) (source : σ) :
    (of group).randomScalar source = some (group.randomScalar source) := by
  have hbits : group.orderBits ≤ group.orderLength * 8 := by
    rw [Nat.mul_comm]
    exact Octets.bits_le_octetsFor group.orderBits
  have hexcess : group.orderLength * 8 - group.orderBits = group.excessBits.val := by
    rw [Nat.mul_comm]
    rfl
  rw [randomScalar, orderLength_of, orderBits_of]
  simp only [minus_of_le hbits, hexcess, shiftRight_mask, Option.bind_eq_bind, Option.bind_some]
  exact randomScalarWithin_of h maxScalarAttempts source

theorem decode_of [OverflowChecks] (h : Counted group) (value : Octets) :
    (of group).decode value = result (group.decode value) := by
  rw [decode, fieldElementLength_of, CurveGroup.decode, ExchangeError.requireLength]
  by_cases hlength : value.length = 2 * group.fieldElementLength
  · have hsplit : split value group.fieldElementLength =
        some (value.take group.fieldElementLength, value.drop group.fieldElementLength) :=
      split_of_le (by omega)
    simp only [hlength, if_true, hsplit, pointOfAffine_of h, run_result, liftM_except, liftM_some,
      ok_bind]
    cases group.pointOfAffine (value.take group.fieldElementLength)
        (value.drop group.fieldElementLength) with
    | ok point => rfl
    | error e => rfl
  · simp only [hlength, if_false]
    rfl

theorem encode_of (P : Point) (xOnly : Bool) :
    (of group).encode P xOnly = result (group.encode P xOnly) := by
  apply result_bind
  rintro ⟨x, y⟩ -
  simp only [fieldElementLength_of, leftPad?_eq, liftM_some, ok_bind, Secret.leftPadded]
  cases x.leftPad? group.fieldElementLength with
  | none => rfl
  | some first =>
      cases xOnly with
      | true => rfl
      | false =>
          cases y.leftPad? group.fieldElementLength with
          | none => rfl
          | some second => rfl

end AnyGroup

/-! ## No step without a result -/

/-- All that is asked of a group comes to the result that the library gives,
whatever it is asked with. -/
structure Serves [OverflowChecks] (group : CurveGroup) : Prop where
  pointOfAffine : ∀ x y,
    ((AnyGroup.of group).pointOfAffine x y).run = some (group.pointOfAffine x y)
  contains : ∀ P, (AnyGroup.of group).contains P = some (group.contains P)
  scalar : ∀ s, ((AnyGroup.of group).scalar s).run = some (group.scalar s)
  randomScalar : ∀ {σ : Type} [RandomSource σ] (source : σ),
    (AnyGroup.of group).randomScalar source = some (group.randomScalar source)
  mul : ∀ P k, ((AnyGroup.of group).mul P k).run = some (group.mul P k)
  mulGenerator : ∀ k, ((AnyGroup.of group).mulGenerator k).run = some (group.mulGenerator k)
  decode : ∀ value, ((AnyGroup.of group).decode value).run = some (group.decode value)
  encode : ∀ P xOnly, ((AnyGroup.of group).encode P xOnly).run = some (group.encode P xOnly)

theorem serves_of_orderLength_pos [OverflowChecks] {group : CurveGroup}
    (hcounted : AnyGroup.Counted group) (horder : 0 < group.orderLength) : Serves group := by
  constructor
  case pointOfAffine =>
    exact fun x y => congrArg ExceptT.run (AnyGroup.pointOfAffine_of hcounted x y)
  case contains => exact AnyGroup.contains_of hcounted
  case scalar => exact fun s => congrArg ExceptT.run (AnyGroup.scalar_of s)
  case randomScalar => exact AnyGroup.randomScalar_of horder
  case mul => exact fun P k => congrArg ExceptT.run (AnyGroup.mul_of hcounted P k)
  case mulGenerator =>
    exact fun k => congrArg ExceptT.run (AnyGroup.mulGenerator_of hcounted k)
  case decode => exact fun value => congrArg ExceptT.run (AnyGroup.decode_of hcounted value)
  case encode => exact fun P xOnly => congrArg ExceptT.run (AnyGroup.encode_of P xOnly)

theorem orderLength_pos_of_explicit (group : ExplicitGroup) :
    0 < (CurveGroup.explicit group).orderLength := by
  have hbits := group.one_lt_bitLength_order
  have horder : (CurveGroup.explicit group).orderLength =
      Octets.octetsFor group.order.bitLength := rfl
  rw [horder, Octets.octetsFor]
  omega

theorem orderLength_pos_of_named (curve : NamedCurve) :
    0 < (CurveGroup.builtIn curve.builtInGroup).orderLength := by
  cases curve <;> decide +kernel

/-- A curve that a construction gives. -/
def ConstructedCurve (curve : PrimeCurve) : Prop :=
  ∃ p a b, PrimeCurve.ofOctets p a b = .ok curve

/-- A group that a construction gives: a constructed curve with a generator. -/
def ConstructedGroup (group : ExplicitGroup) : Prop :=
  ∃ curve : PrimeCurve, ConstructedCurve curve ∧
    ∃ name P q cofactor, curve.withGenerator name P q cofactor = .ok group

theorem ConstructedCurve.width {curve : PrimeCurve} (h : ConstructedCurve curve) :
    curve.field.width + 7 < 2 ^ 29 := by
  obtain ⟨p, a, b, hcurve⟩ := h
  exact Curve.width_of_ofOctets hcurve

theorem ConstructedGroup.width {group : ExplicitGroup} (h : ConstructedGroup group) :
    group.curve.field.width + 7 < 2 ^ 29 := by
  obtain ⟨curve, hcurve, name, P, q, cofactor, hgroup⟩ := h
  obtain ⟨-, rfl, -⟩ := PrimeCurve.withGenerator_eq_ok_iff.mp hgroup
  exact hcurve.width

theorem constructedGroup_of_build {params : DomainParams} {group : ExplicitGroup}
    (h : params.build.value = .ok group) : ConstructedGroup group := by
  obtain ⟨curve, generator, hcurve, -, hgroup⟩ := DomainParams.stages_of_build h
  exact ⟨curve, ⟨_, _, _, hcurve⟩, _, _, _, _, hgroup⟩

/-- A construction has no result exactly when the bits of its modulus overflow.  Every
other one comes to the numbers of what the library constructs, or is refused as there,
and every operation of what was constructed to the library's result. -/
structure NeverStuck [OverflowChecks] : Prop where
  curve_eq_none_iff : ∀ p a b, (Curve.ofOctets p a b).run = none ↔ Overflows p
  curve : ∀ p a b, ¬Overflows p →
    (Curve.ofOctets p a b).run = some ((PrimeCurve.ofOctets p a b).map Curve.of)
  build_eq_none_iff : ∀ params, build params = none ↔ Overflows params.p
  build : ∀ params, ¬Overflows params.p → build params =
    some { value := params.build.value.map Group.of, events := params.build.events }
  point : ∀ curve : PrimeCurve, ConstructedCurve curve → ∀ x y,
    ((Curve.of curve).point x y).run = some (curve.point x y)
  contains : ∀ curve : PrimeCurve, ConstructedCurve curve → ∀ P,
    (Curve.of curve).contains P = some (curve.contains P)
  withGenerator : ∀ curve : PrimeCurve, ConstructedCurve curve → ∀ name P q cofactor,
    ((Curve.of curve).withGenerator name P q cofactor).run =
      some ((curve.withGenerator name P q cofactor).map Group.of)
  built : ∀ (params : DomainParams) group, params.build.value = .ok group →
    ConstructedGroup group
  mulByOrder : ∀ group : ExplicitGroup, ConstructedGroup group → ∀ P,
    ((Group.of group).mulByOrder P).run = some (group.mulByOrder P)
  explicit : ∀ group : ExplicitGroup, ConstructedGroup group → Serves (.explicit group)
  named : ∀ (curve : NamedCurve) group, curve.group = .ok group → Serves group

/-- No input of whatever shape leaves the arithmetic of curves and groups without a
result, but a modulus whose bits are too many to be counted where this is checked. -/
theorem never_stuck [OverflowChecks] : NeverStuck := by
  constructor
  case curve_eq_none_iff =>
    intro p a b
    by_cases h : Overflows p
    · rw [Curve.ofOctets_of_overflows h]
      exact iff_of_true rfl h
    · rw [Curve.ofOctets_of_not_overflows h]
      exact iff_of_false (Option.some_ne_none _) h
  case curve =>
    exact fun p a b h => congrArg ExceptT.run (Curve.ofOctets_of_not_overflows h a b)
  case build_eq_none_iff =>
    intro params
    by_cases h : Overflows params.p
    · exact iff_of_true (build_of_overflows h) h
    · rw [build_of_not_overflows h]
      exact iff_of_false (Option.some_ne_none _) h
  case build => exact fun params => build_of_not_overflows
  case point =>
    exact fun curve h x y => congrArg ExceptT.run (Curve.point_of h.width x y)
  case contains => exact fun curve h => Curve.contains_of h.width
  case withGenerator =>
    exact fun curve h name P q cofactor =>
      congrArg ExceptT.run (withGenerator_of h.width name P q cofactor)
  case built => exact fun params group => constructedGroup_of_build
  case mulByOrder =>
    exact fun group h P => congrArg ExceptT.run (Curve.multiple_of h.width P group.order)
  case explicit =>
    exact fun group h => serves_of_orderLength_pos h.width (orderLength_pos_of_explicit group)
  case named =>
    intro curve group h
    rw [NamedCurve.group] at h
    split at h
    · rw [← Except.ok.inj h]
      exact serves_of_orderLength_pos trivial (orderLength_pos_of_named curve)
    · contradiction

/-- Numbers that no construction gives: with an empty order, the drawn string has no
octet for the mask. -/
example :
    (AnyGroup.explicit ⟨"", ⟨⟨1, [5], 8, 5⟩, 2, 1⟩, .affine [0] [1], [], 0, 1⟩).randomScalar
      (Script.ofOctets [] none) = none := by
  decide +kernel

end EcpAgreement.Bare
