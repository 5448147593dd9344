import TableGateway.Declaration.Layout
import TableGateway.Description
import TableGateway.Pool
import TableGateway.Proofs.Session.Noninterference
import TableGateway.Proofs.Statement.Placeholders
import TableGateway.Proofs.Statement.Reading
import TableGateway.Wire.Exchange
import TableGateway.Proofs.Fragment.Program
import TableGateway.Proofs.Fragment.Seam
import TableGateway.Proofs.Session.Safety
import TableGateway.Proofs.Session.Answer
import TableGateway.Proofs.Wire.Cell
import TableGateway.Proofs.Wire.Result
import TableGateway.Proofs.Declaration.Field
import TableGateway.Proofs.Declaration.Layout
import TableGateway.Proofs.Number.Binary
import TableGateway.Proofs.Wire.Numeric
import TableGateway.Proofs.Json.Text
import TableGateway.Proofs.Json.Number
import TableGateway.Proofs.Json.Regular
import TableGateway.Proofs.Json.Document
import TableGateway.Proofs.Wire.Rebinding
import TableGateway.Proofs.Input.Page
import TableGateway.Proofs.Wire.Coercion
import TableGateway.Proofs.Wire.Integer
import TableGateway.Proofs.Session.Identifier
import TableGateway.Proofs.Quotation
import TableGateway.Proofs.Session.ById
import TableGateway.Proofs.Declaration.Naming
import TableGateway.Proofs.Declaration.Constants
import TableGateway.Proofs.Clipping
import TableGateway.Proofs.Fragment.Blank
import TableGateway.Proofs.Input.Builder
import TableGateway.Proofs.Declaration.Respelling
