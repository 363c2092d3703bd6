import Retouch.Classpath.Stub

/-!
# AssertJ 3.24

The entry points of AssertJ and the assertions they return.
-/

namespace Retouch.Resource

/-- The entry points of AssertJ and the assertions they return. -/
def assertj : List TypeStub := [
  { fqn := "org.assertj.core.api.Assertions",
    methods := [
      { name := "assertThat", params := ["java.lang.String"],
        returns := "org.assertj.core.api.AbstractStringAssert", isStatic := true },
      { name := "assertThat", params := ["java.lang.CharSequence"],
        returns := "org.assertj.core.api.AbstractCharSequenceAssert", isStatic := true },
      { name := "assertThat", params := ["boolean"],
        returns := "org.assertj.core.api.AbstractBooleanAssert", isStatic := true },
      { name := "assertThat", params := ["java.lang.Boolean"],
        returns := "org.assertj.core.api.AbstractBooleanAssert", isStatic := true },
      { name := "assertThat", params := ["byte"],
        returns := "org.assertj.core.api.AbstractByteAssert", isStatic := true },
      { name := "assertThat", params := ["java.lang.Byte"],
        returns := "org.assertj.core.api.AbstractByteAssert", isStatic := true },
      { name := "assertThat", params := ["short"],
        returns := "org.assertj.core.api.AbstractShortAssert", isStatic := true },
      { name := "assertThat", params := ["java.lang.Short"],
        returns := "org.assertj.core.api.AbstractShortAssert", isStatic := true },
      { name := "assertThat", params := ["char"],
        returns := "org.assertj.core.api.AbstractCharacterAssert", isStatic := true },
      { name := "assertThat", params := ["java.lang.Character"],
        returns := "org.assertj.core.api.AbstractCharacterAssert", isStatic := true },
      { name := "assertThat", params := ["int"],
        returns := "org.assertj.core.api.AbstractIntegerAssert", isStatic := true },
      { name := "assertThat", params := ["java.lang.Integer"],
        returns := "org.assertj.core.api.AbstractIntegerAssert", isStatic := true },
      { name := "assertThat", params := ["long"],
        returns := "org.assertj.core.api.AbstractLongAssert", isStatic := true },
      { name := "assertThat", params := ["java.lang.Long"],
        returns := "org.assertj.core.api.AbstractLongAssert", isStatic := true },
      { name := "assertThat", params := ["float"],
        returns := "org.assertj.core.api.AbstractFloatAssert", isStatic := true },
      { name := "assertThat", params := ["java.lang.Float"],
        returns := "org.assertj.core.api.AbstractFloatAssert", isStatic := true },
      { name := "assertThat", params := ["double"],
        returns := "org.assertj.core.api.AbstractDoubleAssert", isStatic := true },
      { name := "assertThat", params := ["java.lang.Double"],
        returns := "org.assertj.core.api.AbstractDoubleAssert", isStatic := true },
      { name := "assertThat", params := ["java.math.BigDecimal"],
        returns := "org.assertj.core.api.AbstractBigDecimalAssert", isStatic := true },
      { name := "assertThat", params := ["boolean[]"],
        returns := "org.assertj.core.api.AbstractBooleanArrayAssert", isStatic := true },
      { name := "assertThat", params := ["byte[]"],
        returns := "org.assertj.core.api.AbstractByteArrayAssert", isStatic := true },
      { name := "assertThat", params := ["short[]"],
        returns := "org.assertj.core.api.AbstractShortArrayAssert", isStatic := true },
      { name := "assertThat", params := ["char[]"],
        returns := "org.assertj.core.api.AbstractCharArrayAssert", isStatic := true },
      { name := "assertThat", params := ["int[]"],
        returns := "org.assertj.core.api.AbstractIntArrayAssert", isStatic := true },
      { name := "assertThat", params := ["long[]"],
        returns := "org.assertj.core.api.AbstractLongArrayAssert", isStatic := true },
      { name := "assertThat", params := ["float[]"],
        returns := "org.assertj.core.api.AbstractFloatArrayAssert", isStatic := true },
      { name := "assertThat", params := ["double[]"],
        returns := "org.assertj.core.api.AbstractDoubleArrayAssert", isStatic := true },
      { name := "assertThat", params := ["java.lang.Object[]"],
        returns := "org.assertj.core.api.ObjectArrayAssert", isStatic := true },
      { name := "assertThat", params := ["java.util.List"],
        returns := "org.assertj.core.api.ListAssert", isStatic := true },
      { name := "assertThat", params := ["java.lang.Iterable"],
        returns := "org.assertj.core.api.IterableAssert", isStatic := true },
      { name := "assertThat", params := ["java.util.Map"],
        returns := "org.assertj.core.api.MapAssert", isStatic := true },
      { name := "assertThat", params := ["java.util.Optional"],
        returns := "org.assertj.core.api.OptionalAssert", isStatic := true },
      { name := "assertThat", params := ["java.lang.Throwable"],
        returns := "org.assertj.core.api.AbstractThrowableAssert", isStatic := true },
      { name := "assertThat", params := ["java.lang.Object"],
        returns := "org.assertj.core.api.ObjectAssert", isStatic := true },
      { name := "assertThatThrownBy",
        params := ["org.assertj.core.api.ThrowableAssert.ThrowingCallable"],
        returns := "org.assertj.core.api.AbstractThrowableAssert", isStatic := true },
      { name := "assertThatCode",
        params := ["org.assertj.core.api.ThrowableAssert.ThrowingCallable"],
        returns := "org.assertj.core.api.AbstractThrowableAssert", isStatic := true },
      { name := "assertThatNoException", returns := "org.assertj.core.api.NotThrownAssert",
        isStatic := true },
      { name := "within", params := ["double"], returns := "org.assertj.core.data.Offset",
        isStatic := true },
      { name := "within", params := ["java.lang.Double"],
        returns := "org.assertj.core.data.Offset", isStatic := true },
      { name := "within", params := ["float"], returns := "org.assertj.core.data.Offset",
        isStatic := true },
      { name := "within", params := ["java.lang.Float"],
        returns := "org.assertj.core.data.Offset", isStatic := true },
      { name := "within", params := ["java.lang.Long"],
        returns := "org.assertj.core.data.Offset", isStatic := true },
      { name := "within", params := ["java.lang.Integer"],
        returns := "org.assertj.core.data.Offset", isStatic := true },
      { name := "offset", params := ["double"], returns := "org.assertj.core.data.Offset",
        isStatic := true },
      { name := "offset", params := ["float"], returns := "org.assertj.core.data.Offset",
        isStatic := true },
      { name := "entry", params := ["java.lang.Object", "java.lang.Object"],
        returns := "org.assertj.core.data.MapEntry", isStatic := true },
      { name := "fail", params := ["java.lang.String"], returns := "java.lang.Object",
        isStatic := true },
      { name := "fail", params := ["java.lang.String", "java.lang.Throwable"],
        returns := "java.lang.Object", isStatic := true }] },
  { fqn := "org.assertj.core.data.Offset",
    methods := [
      { name := "offset", params := ["java.lang.Number"],
        returns := "org.assertj.core.data.Offset", isStatic := true }] },
  { fqn := "org.assertj.core.data.MapEntry" },
  { fqn := "org.assertj.core.api.ThrowableAssert.ThrowingCallable",
    kind := .interface,
    functional := true,
    methods := [
      { name := "call" }] },
  { fqn := "org.assertj.core.api.Descriptable",
    kind := .interface,
    methods := [
      { name := "as", params := ["java.lang.String", "java.lang.Object[]"], returns := "SELF",
        varargs := true },
      { name := "as", params := ["java.util.function.Supplier"], returns := "SELF" },
      { name := "describedAs", params := ["java.lang.String", "java.lang.Object[]"],
        returns := "SELF", varargs := true }] },
  { fqn := "org.assertj.core.api.Assert",
    kind := .interface,
    supertypes := ["org.assertj.core.api.Descriptable"] },
  { fqn := "org.assertj.core.api.AbstractAssert",
    supertypes := ["org.assertj.core.api.Assert"],
    methods := [
      { name := "isEqualTo", params := ["java.lang.Object"], returns := "SELF" },
      { name := "isNotEqualTo", params := ["java.lang.Object"], returns := "SELF" },
      { name := "isNull" },
      { name := "isNotNull", returns := "SELF" },
      { name := "isSameAs", params := ["java.lang.Object"], returns := "SELF" },
      { name := "isNotSameAs", params := ["java.lang.Object"], returns := "SELF" },
      { name := "isInstanceOf", params := ["java.lang.Class"], returns := "SELF" },
      { name := "isIn", params := ["java.lang.Object[]"], returns := "SELF", varargs := true },
      { name := "withFailMessage", params := ["java.lang.String", "java.lang.Object[]"],
        returns := "SELF", varargs := true },
      { name := "overridingErrorMessage", params := ["java.lang.String", "java.lang.Object[]"],
        returns := "SELF", varargs := true },
      { name := "satisfies", params := ["java.util.function.Consumer"], returns := "SELF" }] },
  { fqn := "org.assertj.core.api.AbstractObjectAssert",
    supertypes := ["org.assertj.core.api.AbstractAssert"],
    methods := [
      { name := "hasFieldOrProperty", params := ["java.lang.String"], returns := "SELF" },
      { name := "usingRecursiveComparison",
        returns := "org.assertj.core.api.RecursiveComparisonAssert" }] },
  { fqn := "org.assertj.core.api.RecursiveComparisonAssert",
    supertypes := ["org.assertj.core.api.AbstractAssert"] },
  { fqn := "org.assertj.core.api.ObjectAssert",
    supertypes := ["org.assertj.core.api.AbstractObjectAssert"] },
  { fqn := "org.assertj.core.api.NotThrownAssert",
    supertypes := ["org.assertj.core.api.Descriptable"],
    methods := [
      { name := "isThrownBy",
        params := ["org.assertj.core.api.ThrowableAssert.ThrowingCallable"] }] },
  { fqn := "org.assertj.core.api.AbstractCharSequenceAssert",
    supertypes := ["org.assertj.core.api.AbstractAssert"],
    methods := [
      { name := "isEmpty" },
      { name := "isNotEmpty", returns := "SELF" },
      { name := "isNullOrEmpty" },
      { name := "isBlank" },
      { name := "isNotBlank", returns := "SELF" },
      { name := "hasSize", params := ["int"], returns := "SELF" },
      { name := "contains", params := ["java.lang.CharSequence[]"], returns := "SELF",
        varargs := true },
      { name := "doesNotContain", params := ["java.lang.CharSequence[]"], returns := "SELF",
        varargs := true },
      { name := "startsWith", params := ["java.lang.CharSequence"], returns := "SELF" },
      { name := "endsWith", params := ["java.lang.CharSequence"], returns := "SELF" },
      { name := "matches", params := ["java.lang.CharSequence"], returns := "SELF" },
      { name := "isEqualToIgnoringCase", params := ["java.lang.CharSequence"], returns := "SELF" }] },
  { fqn := "org.assertj.core.api.AbstractStringAssert",
    supertypes := ["org.assertj.core.api.AbstractCharSequenceAssert"],
    methods := [
      { name := "isEqualTo", params := ["java.lang.String"], returns := "SELF" },
      { name := "isEqualTo", params := ["java.lang.String", "java.lang.Object[]"],
        returns := "SELF", varargs := true }] },
  { fqn := "org.assertj.core.api.AbstractComparableAssert",
    supertypes := ["org.assertj.core.api.AbstractObjectAssert"],
    methods := [
      { name := "isLessThan", params := ["java.lang.Comparable"], returns := "SELF" },
      { name := "isGreaterThan", params := ["java.lang.Comparable"], returns := "SELF" },
      { name := "isBetween", params := ["java.lang.Comparable", "java.lang.Comparable"],
        returns := "SELF" }] },
  { fqn := "org.assertj.core.api.AbstractBooleanAssert",
    supertypes := ["org.assertj.core.api.AbstractAssert"],
    methods := [
      { name := "isTrue", returns := "SELF" },
      { name := "isFalse", returns := "SELF" },
      { name := "isEqualTo", params := ["boolean"], returns := "SELF" }] },
  { fqn := "org.assertj.core.api.AbstractByteAssert",
    supertypes := ["org.assertj.core.api.AbstractComparableAssert"],
    methods := [
      { name := "isEqualTo", params := ["byte"], returns := "SELF" }] },
  { fqn := "org.assertj.core.api.AbstractShortAssert",
    supertypes := ["org.assertj.core.api.AbstractComparableAssert"],
    methods := [
      { name := "isEqualTo", params := ["short"], returns := "SELF" }] },
  { fqn := "org.assertj.core.api.AbstractCharacterAssert",
    supertypes := ["org.assertj.core.api.AbstractComparableAssert"],
    methods := [
      { name := "isEqualTo", params := ["char"], returns := "SELF" }] },
  { fqn := "org.assertj.core.api.AbstractIntegerAssert",
    supertypes := ["org.assertj.core.api.AbstractComparableAssert"],
    methods := [
      { name := "isEqualTo", params := ["int"], returns := "SELF" },
      { name := "isEqualTo", params := ["long"], returns := "SELF" },
      { name := "isCloseTo", params := ["int", "org.assertj.core.data.Offset"],
        returns := "SELF" },
      { name := "isGreaterThan", params := ["int"], returns := "SELF" },
      { name := "isLessThan", params := ["int"], returns := "SELF" },
      { name := "isPositive", returns := "SELF" },
      { name := "isNegative", returns := "SELF" },
      { name := "isZero", returns := "SELF" }] },
  { fqn := "org.assertj.core.api.AbstractLongAssert",
    supertypes := ["org.assertj.core.api.AbstractComparableAssert"],
    methods := [
      { name := "isEqualTo", params := ["long"], returns := "SELF" },
      { name := "isCloseTo", params := ["long", "org.assertj.core.data.Offset"],
        returns := "SELF" },
      { name := "isGreaterThan", params := ["long"], returns := "SELF" },
      { name := "isLessThan", params := ["long"], returns := "SELF" },
      { name := "isZero", returns := "SELF" }] },
  { fqn := "org.assertj.core.api.AbstractFloatAssert",
    supertypes := ["org.assertj.core.api.AbstractComparableAssert"],
    methods := [
      { name := "isEqualTo", params := ["float"], returns := "SELF" },
      { name := "isCloseTo", params := ["float", "org.assertj.core.data.Offset"],
        returns := "SELF" },
      { name := "isCloseTo", params := ["java.lang.Float", "org.assertj.core.data.Offset"],
        returns := "SELF" },
      { name := "isNaN", returns := "SELF" },
      { name := "isZero", returns := "SELF" }] },
  { fqn := "org.assertj.core.api.AbstractDoubleAssert",
    supertypes := ["org.assertj.core.api.AbstractComparableAssert"],
    methods := [
      { name := "isEqualTo", params := ["double"], returns := "SELF" },
      { name := "isCloseTo", params := ["double", "org.assertj.core.data.Offset"],
        returns := "SELF" },
      { name := "isCloseTo", params := ["java.lang.Double", "org.assertj.core.data.Offset"],
        returns := "SELF" },
      { name := "isGreaterThan", params := ["double"], returns := "SELF" },
      { name := "isLessThan", params := ["double"], returns := "SELF" },
      { name := "isNaN", returns := "SELF" },
      { name := "isZero", returns := "SELF" },
      { name := "isPositive", returns := "SELF" }] },
  { fqn := "org.assertj.core.api.AbstractBigDecimalAssert",
    supertypes := ["org.assertj.core.api.AbstractComparableAssert"],
    methods := [
      { name := "isEqualByComparingTo", params := ["java.math.BigDecimal"], returns := "SELF" }] },
  { fqn := "org.assertj.core.api.AbstractBooleanArrayAssert",
    supertypes := ["org.assertj.core.api.AbstractAssert"],
    methods := [
      { name := "containsExactly", params := ["boolean[]"], returns := "SELF", varargs := true },
      { name := "isEmpty" },
      { name := "hasSize", params := ["int"], returns := "SELF" }] },
  { fqn := "org.assertj.core.api.AbstractByteArrayAssert",
    supertypes := ["org.assertj.core.api.AbstractAssert"],
    methods := [
      { name := "containsExactly", params := ["byte[]"], returns := "SELF", varargs := true },
      { name := "isEmpty" },
      { name := "hasSize", params := ["int"], returns := "SELF" }] },
  { fqn := "org.assertj.core.api.AbstractShortArrayAssert",
    supertypes := ["org.assertj.core.api.AbstractAssert"],
    methods := [
      { name := "containsExactly", params := ["short[]"], returns := "SELF", varargs := true },
      { name := "isEmpty" },
      { name := "hasSize", params := ["int"], returns := "SELF" }] },
  { fqn := "org.assertj.core.api.AbstractCharArrayAssert",
    supertypes := ["org.assertj.core.api.AbstractAssert"],
    methods := [
      { name := "containsExactly", params := ["char[]"], returns := "SELF", varargs := true },
      { name := "isEmpty" },
      { name := "hasSize", params := ["int"], returns := "SELF" }] },
  { fqn := "org.assertj.core.api.AbstractIntArrayAssert",
    supertypes := ["org.assertj.core.api.AbstractAssert"],
    methods := [
      { name := "containsExactly", params := ["int[]"], returns := "SELF", varargs := true },
      { name := "contains", params := ["int[]"], returns := "SELF", varargs := true },
      { name := "isEmpty" },
      { name := "hasSize", params := ["int"], returns := "SELF" }] },
  { fqn := "org.assertj.core.api.AbstractLongArrayAssert",
    supertypes := ["org.assertj.core.api.AbstractAssert"],
    methods := [
      { name := "containsExactly", params := ["long[]"], returns := "SELF", varargs := true },
      { name := "isEmpty" },
      { name := "hasSize", params := ["int"], returns := "SELF" }] },
  { fqn := "org.assertj.core.api.AbstractFloatArrayAssert",
    supertypes := ["org.assertj.core.api.AbstractAssert"],
    methods := [
      { name := "containsExactly", params := ["float[]"], returns := "SELF", varargs := true },
      { name := "containsExactly", params := ["float[]", "org.assertj.core.data.Offset"],
        returns := "SELF" },
      { name := "isEmpty" },
      { name := "hasSize", params := ["int"], returns := "SELF" }] },
  { fqn := "org.assertj.core.api.AbstractDoubleArrayAssert",
    supertypes := ["org.assertj.core.api.AbstractAssert"],
    methods := [
      { name := "containsExactly", params := ["double[]"], returns := "SELF", varargs := true },
      { name := "containsExactly", params := ["double[]", "org.assertj.core.data.Offset"],
        returns := "SELF" },
      { name := "contains", params := ["double[]"], returns := "SELF", varargs := true },
      { name := "usingComparatorWithPrecision", params := ["java.lang.Double"],
        returns := "SELF" },
      { name := "isEmpty" },
      { name := "hasSize", params := ["int"], returns := "SELF" }] },
  { fqn := "org.assertj.core.api.AbstractObjectArrayAssert",
    supertypes := ["org.assertj.core.api.AbstractAssert"],
    methods := [
      { name := "containsExactly", params := ["java.lang.Object[]"], returns := "SELF",
        varargs := true },
      { name := "contains", params := ["java.lang.Object[]"], returns := "SELF", varargs := true },
      { name := "isEmpty" },
      { name := "hasSize", params := ["int"], returns := "SELF" }] },
  { fqn := "org.assertj.core.api.ObjectArrayAssert",
    supertypes := ["org.assertj.core.api.AbstractObjectArrayAssert"] },
  { fqn := "org.assertj.core.api.AbstractIterableAssert",
    supertypes := ["org.assertj.core.api.AbstractAssert"],
    methods := [
      { name := "containsExactly", params := ["java.lang.Object[]"], returns := "SELF",
        varargs := true },
      { name := "containsOnly", params := ["java.lang.Object[]"], returns := "SELF",
        varargs := true },
      { name := "contains", params := ["java.lang.Object[]"], returns := "SELF", varargs := true },
      { name := "doesNotContain", params := ["java.lang.Object[]"], returns := "SELF",
        varargs := true },
      { name := "hasSize", params := ["int"], returns := "SELF" },
      { name := "isEmpty" },
      { name := "isNotEmpty", returns := "SELF" }] },
  { fqn := "org.assertj.core.api.IterableAssert",
    supertypes := ["org.assertj.core.api.AbstractIterableAssert"] },
  { fqn := "org.assertj.core.api.AbstractListAssert",
    supertypes := ["org.assertj.core.api.AbstractIterableAssert"] },
  { fqn := "org.assertj.core.api.ListAssert",
    supertypes := ["org.assertj.core.api.AbstractListAssert"] },
  { fqn := "org.assertj.core.api.AbstractMapAssert",
    supertypes := ["org.assertj.core.api.AbstractObjectAssert"],
    methods := [
      { name := "containsKey", params := ["java.lang.Object"], returns := "SELF" },
      { name := "containsEntry", params := ["java.lang.Object", "java.lang.Object"],
        returns := "SELF" },
      { name := "hasSize", params := ["int"], returns := "SELF" },
      { name := "isEmpty" }] },
  { fqn := "org.assertj.core.api.MapAssert",
    supertypes := ["org.assertj.core.api.AbstractMapAssert"] },
  { fqn := "org.assertj.core.api.AbstractOptionalAssert",
    supertypes := ["org.assertj.core.api.AbstractAssert"],
    methods := [
      { name := "isPresent", returns := "SELF" },
      { name := "isEmpty", returns := "SELF" },
      { name := "contains", params := ["java.lang.Object"], returns := "SELF" }] },
  { fqn := "org.assertj.core.api.OptionalAssert",
    supertypes := ["org.assertj.core.api.AbstractOptionalAssert"] },
  { fqn := "org.assertj.core.api.AbstractThrowableAssert",
    supertypes := ["org.assertj.core.api.AbstractObjectAssert"],
    methods := [
      { name := "hasMessage", params := ["java.lang.String"], returns := "SELF" },
      { name := "hasMessageContaining", params := ["java.lang.String"], returns := "SELF" },
      { name := "hasCauseInstanceOf", params := ["java.lang.Class"], returns := "SELF" },
      { name := "isInstanceOf", params := ["java.lang.Class"], returns := "SELF" }] }]

end Retouch.Resource
