import LinearSystems.Value.Signature

/-!
# Operations and their arguments

The signatures of the operations that can be called by name: those that stand alone, and those of an
object by its sort.
-/

namespace LinearSystems

namespace Signature

/-- An operation that stands alone. -/
def plain (name : String) (required : List String) (optional namedOptional : List String := []) :
    Signature :=
  { name, required, optional, namedOptional }

/-- An operation of an object or of a sort, which fills the first place. -/
def owned (name : String) (required : List String) (optional namedOptional : List String := []) :
    Signature :=
  { name, implicit := 1, required, optional, namedOptional }

/-- The operation that makes an object of a sort. -/
def maker (sort : String) (required : List String) (optional namedOptional : List String := []) :
    Signature :=
  owned (sort ++ ".__init__") required optional namedOptional

/-- The operations that stand alone or make an object. -/
def ofFunction? : String → Option Signature
  | "Matrix" => maker "Matrix" ["elements"] ["tolerance"]
  | "Vector" => maker "Vector" ["elements"] ["tolerance"]
  | "Vector.from_values" => owned "Vector.from_values" ["values"] [] ["horizontal", "tolerance"]
  | "Vector.zeros" => owned "Vector.zeros" ["dimensions"] [] ["horizontal", "tolerance"]
  | "Vector.from_points" => owned "Vector.from_points" ["p1", "p2"] [] ["tolerance"]
  | "LinearEquation" => maker "LinearEquation" ["normal_vector", "k"]
  | "LinearEquation.from_coefficients" =>
    owned "LinearEquation.from_coefficients" ["coefficients", "k"] [] ["tolerance"]
  | "Line" => maker "Line" ["a", "b", "k"] [] ["tolerance"]
  | "Plane" => maker "Plane" ["a", "b", "c", "k"] [] ["tolerance"]
  | "SystemDesign.from_equations" =>
    owned "SystemDesign.from_equations" ["equations"] [] ["tolerance"]
  | "SystemDesign.from_arrays" => owned "SystemDesign.from_arrays" ["A", "b"] [] ["tolerance"]
  | "solve" => plain "solve" ["equations"] [] ["tolerance", "backend"]
  | "backend.solve" => owned "CPUGaussJordanBackend.solve" ["design"]
  | "EliminationEngine" => maker "EliminationEngine" ["design"]
  | "parametrize" => maker "Parametrizer" ["rref", "offsets", "tolerance"]
  | "Parametrization" =>
    maker "Parametrization" ["dimensions", "base_point", "direction_vectors", "free_variables"]
  | "Result" => maker "Result" ["params", "info", "timing", "backend_name"] ["warnings"]
  | "ToleranceTier" => maker "ToleranceTier" ["value", "name", "description"]
  | "resolve_tolerance" => plain "resolve_tolerance" ["tolerance"]
  | "is_zero" => plain "is_zero" ["value", "tolerance"]
  | "is_close" => plain "is_close" ["value", "target", "tolerance"]
  | "check_ndim" => plain "check_ndim" ["array", "ndim", "name"]
  | "check_array" => plain "check_array" ["array", "name"]
  | "check_finite" => plain "check_finite" ["array", "name"]
  | "check_1d" => plain "check_1d" ["array", "name"]
  | "check_2d" => plain "check_2d" ["array", "name"]
  | "check_not_empty" => plain "check_not_empty" ["array", "name"]
  | "check_consistent_length" =>
    some { name := "check_consistent_length", namedRequired := ["names"], takesMore := true }
  | "check_index" => plain "check_index" ["index", "size", "name"]
  | "next_pivot" => plain "next_pivot" ["matrix", "row", "variable", "tolerance"]
  | "find_pivots" => plain "find_pivots" ["matrix", "tolerance"]
  | "format_augmented" => plain "format_augmented" ["A", "b"] ["precision"]
  | "format_parametric" =>
    plain "format_parametric" ["base_point", "direction_vectors", "tolerance"] []
      ["symbol", "parameter", "precision"]
  | "format_as_vectors" =>
    plain "format_as_vectors" ["base_point", "direction_vectors", "free_variables"] []
      ["symbol", "decimals"]
  | _ => none

/-- The arguments of the operations on matrices. -/
def ofMatMethod? (name : String) : Option Signature :=
  let path := "Matrix." ++ name
  match name with
  | "multiply" | "add" | "subtract" | "is_same_size" | "is_equal" => owned path ["other"]
  | "scalar_multiply" => owned path ["scalar"]
  | "transpose" | "is_zero" | "to_numpy" => owned path []
  | "equals_value" => owned path ["value", "i", "j"]
  | "get_row" | "get_column" => owned path ["index"]
  | "format" => owned path [] ["precision"]
  | _ => none

/-- The arguments of the operations on vectors. -/
def ofVecMethod? (name : String) : Option Signature :=
  let path := "Vector." ++ name
  match name with
  | "dot" | "is_parallel" | "is_orthogonal" | "cross" | "area_of_parallelogram"
  | "area_of_triangle" => owned path ["other"]
  | "angle" => owned path ["other"] [] ["degrees"]
  | "projection" | "orthogonal_component" | "parallel_component" => owned path ["onto"]
  | "element" => owned path ["position"]
  | "equals_value" => owned path ["value", "position"]
  | "magnitude" | "normalize" | "is_3_dimensional" | "to_array" => owned path []
  | name => ofMatMethod? name

/-- The arguments of the single steps of an elimination. -/
def ofStep? (name : String) : Option Signature :=
  let path := "EliminationEngine._" ++ name
  match name with
  | "triangular_form" | "reduced_row_echelon_form" | "is_consistent" => owned path []
  | "classify" | "unique_solution" => owned path ["pivots"]
  | "find_pivot_row" | "eliminate_below" | "eliminate_above" | "reduce_pivot_to_one" =>
    owned path ["row", "variable"]
  | "eliminate_variable_in_row" => owned path ["variable", "source", "target"]
  | "swap_rows" => owned path ["row1", "row2"]
  | "multiply_row" => owned path ["scalar", "row"]
  | "add_multiple_of_row" => owned path ["scalar", "source", "target"]
  | _ => none

/-- The operations of an object of the sort of a value. -/
def ofMethod? (v : Value) (name : String) : Option Signature :=
  match v, name with
  | .mat _, name => ofMatMethod? name
  | .vec _, name => ofVecMethod? name
  | .equation _, "is_parallel" => owned "LinearEquation.is_parallel" ["other"]
  | .equation _, "is_equal" => owned "LinearEquation.is_equal" ["other"]
  | .equation _, "base_point" => owned "LinearEquation.base_point" []
  | .equation _, "contains" => owned "LinearEquation.contains" ["point"]
  | .equation _, "format" => owned "LinearEquation.format" [] ["symbol", "precision"]
  | .system _, "residuals" => owned "SystemDesign.residuals" ["x"]
  | .system _, "is_satisfied_by" => owned "SystemDesign.is_satisfied_by" ["x"]
  | .system _, "format" => owned "SystemDesign.format" [] ["precision"]
  | .parametrization .., "point" =>
    some { name := "Parametrization.point", implicit := 1, takesMore := true }
  | .parametrization .., "format" =>
    owned "Parametrization.format" [] ["symbol", "parameter", "precision"]
  | .parametrization .., "format_as_vectors" =>
    owned "Parametrization.format_as_vectors" [] ["symbol", "decimals"]
  | .outcome .., "has_warning" => owned "Result.has_warning" ["substring"]
  | .solution _, "format_rref" => owned "SystemSolution.format_rref" [] ["precision"]
  | .elimination .., name => ofStep? name
  | _, _ => none

/-- Checks a call of an operation, on an object or alone; what has no signature takes anything. -/
def checkCall (on : Option Value) (name : String) (a : Arguments) : Except CallFault Unit :=
  let found := match on with
    | some v => ofMethod? v.tame name
    | none => ofFunction? name
  found.elim (.ok ()) (·.check a)

end Signature

end LinearSystems
