import TensorShader.Config.Basic
import TensorShader.Config.Read
import TensorShader.Error
import TensorShader.Kernel.Assembler
import TensorShader.Kernel.Cache
import TensorShader.Kernel.Compiler
import TensorShader.NameMap
import TensorShader.Number.Binary64
import TensorShader.Number.Shortest
import TensorShader.Number.Text
import TensorShader.Operator.Body
import TensorShader.Operator.Builtin
import TensorShader.Operator.Catalog
import TensorShader.Operator.Descriptor
import TensorShader.Operator.Param
import TensorShader.Proofs.Addressing.Broadcast
import TensorShader.Proofs.Addressing.Clamp
import TensorShader.Proofs.Addressing.Closed
import TensorShader.Proofs.Addressing.Declarations
import TensorShader.Proofs.Addressing.Encoding
import TensorShader.Proofs.Addressing.Fragment
import TensorShader.Proofs.Addressing.Position
import TensorShader.Proofs.Addressing.Samplers
import TensorShader.Proofs.Addressing.Sources
import TensorShader.Proofs.Addressing.Texel
import TensorShader.Proofs.Config.Entries
import TensorShader.Proofs.Config.Integers
import TensorShader.Proofs.Except
import TensorShader.Proofs.Kernel.Acceptance
import TensorShader.Proofs.Kernel.Assembly
import TensorShader.Proofs.Kernel.Cache
import TensorShader.Proofs.Kernel.Declarations
import TensorShader.Proofs.Kernel.Declared
import TensorShader.Proofs.Kernel.Distinct
import TensorShader.Proofs.Kernel.Entries
import TensorShader.Proofs.Kernel.History
import TensorShader.Proofs.Kernel.Layouts
import TensorShader.Proofs.Kernel.Literals
import TensorShader.Proofs.Kernel.Numbers
import TensorShader.Proofs.Kernel.Operands
import TensorShader.Proofs.Kernel.Pieces
import TensorShader.Proofs.Kernel.Reads
import TensorShader.Proofs.Kernel.Settings
import TensorShader.Proofs.Kernel.Stages
import TensorShader.Proofs.NameMap.Writes
import TensorShader.Proofs.Number.Decimal
import TensorShader.Proofs.Number.Faithful
import TensorShader.Proofs.Number.FloatLiteral
import TensorShader.Proofs.Number.Literal
import TensorShader.Proofs.Number.Nearest
import TensorShader.Proofs.Number.Shortest
import TensorShader.Proofs.Operator.Acceptance
import TensorShader.Proofs.Operator.Body
import TensorShader.Proofs.Operator.Declarations
import TensorShader.Proofs.Operator.Fragments
import TensorShader.Proofs.Operator.Params
import TensorShader.Proofs.Operator.Reads
import TensorShader.Proofs.Operator.Samplers
import TensorShader.Proofs.Operator.Slices
import TensorShader.Proofs.Operator.Statements
import TensorShader.Proofs.Plan.Append
import TensorShader.Proofs.Plan.Bound
import TensorShader.Proofs.Plan.Dependency
import TensorShader.Proofs.Plan.Extension
import TensorShader.Proofs.Plan.Failure
import TensorShader.Proofs.Plan.FixedPoint
import TensorShader.Proofs.Plan.Ident
import TensorShader.Proofs.Plan.Independence
import TensorShader.Proofs.Plan.Layered
import TensorShader.Proofs.Plan.Moment
import TensorShader.Proofs.Plan.Order
import TensorShader.Proofs.Plan.Registration
import TensorShader.Proofs.Plan.Rendering
import TensorShader.Proofs.Plan.Resolve
import TensorShader.Proofs.Plan.Walk
import TensorShader.Proofs.Registry.AppendOnly
import TensorShader.Proofs.Shader.Declaration
import TensorShader.Proofs.Shader.Expr
import TensorShader.Proofs.Shader.Function
import TensorShader.Proofs.Shader.Linked
import TensorShader.Proofs.Shader.Main
import TensorShader.Proofs.Shader.Token
import TensorShader.Proofs.Template.Fill
import TensorShader.Proofs.Template.Pieces
import TensorShader.Proofs.Template.Reads
import TensorShader.Proofs.Tensor.Broadcast
import TensorShader.Proofs.Text.Bytes
import TensorShader.Proofs.Texture.Extents
import TensorShader.Proofs.Texture.Texel
import TensorShader.Registry
import TensorShader.Subroutine.Addressing
import TensorShader.Subroutine.Fragment
import TensorShader.Subroutine.Instance
import TensorShader.Subroutine.Library
import TensorShader.Subroutine.Plan
import TensorShader.Template.Basic
import TensorShader.Template.BinaryOp
import TensorShader.Template.Comparison
import TensorShader.Template.Expr
import TensorShader.Template.Fault
import TensorShader.Template.Lexer
import TensorShader.Template.Number
import TensorShader.Template.Numeral
import TensorShader.Template.Render
import TensorShader.Template.StringLiteral
import TensorShader.Template.Term
import TensorShader.Template.Token
import TensorShader.Template.Value
import TensorShader.Template.Written
import TensorShader.Tensor.Coord
import TensorShader.Tensor.Nchw
import TensorShader.Tensor.Shape
import TensorShader.Text.Blank
import TensorShader.Text.Digits
import TensorShader.Text.Escaped
import TensorShader.Text.Hidden
import TensorShader.Text.Lines
import TensorShader.Texture.Layout
import TensorShader.Texture.LayoutTable
import TensorShader.Texture.Value
import TensorShader.Yaml.Block
import TensorShader.Yaml.Document
import TensorShader.Yaml.Quoted
import TensorShader.Yaml.Scalar
