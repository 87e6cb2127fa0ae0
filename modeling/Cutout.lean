import Cutout.Address
import Cutout.Bytes
import Cutout.Codec.Bits
import Cutout.Codec.Bmp
import Cutout.Codec.Checksum
import Cutout.Codec.Deflate
import Cutout.Codec.Encode
import Cutout.Codec.Exif
import Cutout.Codec.Gif
import Cutout.Codec.Inflate
import Cutout.Codec.Jpeg.Block
import Cutout.Codec.Jpeg.Decode
import Cutout.Codec.Jpeg.Sampling
import Cutout.Codec.Jpeg.Scan
import Cutout.Codec.Jpeg.Segment
import Cutout.Codec.Jpeg.Transform
import Cutout.Codec.Open
import Cutout.Codec.Png.Chunk
import Cutout.Codec.Png.Decode
import Cutout.Codec.Png.Encode
import Cutout.Codec.Png.Header
import Cutout.Codec.Png.Rows
import Cutout.Codec.PrefixCode
import Cutout.Codec.Reading
import Cutout.Codec.Tiff
import Cutout.Codec.Webp.Chunk
import Cutout.Codec.Webp.Code
import Cutout.Codec.Webp.Decode
import Cutout.Codec.Webp.Encode
import Cutout.Codec.Webp.Lossless
import Cutout.Codec.Webp.Lossy
import Cutout.Codec.Webp.Lossy.Coder
import Cutout.Codec.Webp.Lossy.Decider
import Cutout.Codec.Webp.Lossy.Decode
import Cutout.Codec.Webp.Lossy.Frame
import Cutout.Codec.Webp.Lossy.Head
import Cutout.Codec.Webp.Lossy.ModeTable
import Cutout.Codec.Webp.Lossy.Plan
import Cutout.Codec.Webp.Lossy.Prediction
import Cutout.Codec.Webp.Lossy.Probability
import Cutout.Codec.Webp.Lossy.Residue
import Cutout.Codec.Webp.Lossy.Smoothing
import Cutout.Codec.Webp.Lossy.Square
import Cutout.Codec.Webp.Lossy.Steps
import Cutout.Codec.Webp.Lossy.Token
import Cutout.Codec.Webp.Lossy.Transform
import Cutout.Codec.Webp.Opacity
import Cutout.Codec.Webp.Pixels
import Cutout.Codec.Webp.Transform
import Cutout.Container
import Cutout.Cutter
import Cutout.Cutter.Simple
import Cutout.Decimal.Shortest
import Cutout.Decimal.Tenths
import Cutout.Failure
import Cutout.Http.Disposition
import Cutout.Http.Header
import Cutout.Http.MediaType
import Cutout.Http.Multipart
import Cutout.Http.Query
import Cutout.Http.Request
import Cutout.Http.Response
import Cutout.Http.Target
import Cutout.Image.Fault
import Cutout.Image.Format
import Cutout.Image.Orientation
import Cutout.Image.Picture
import Cutout.Image.Raster
import Cutout.Image.Resize
import Cutout.Image.Sample
import Cutout.Image.Source
import Cutout.Log
import Cutout.Log.Filter
import Cutout.Log.Threshold
import Cutout.Main
import Cutout.Matte.Apply
import Cutout.Matte.Blur
import Cutout.Matte.Clean
import Cutout.Matte.Opening
import Cutout.Matte.Scores
import Cutout.Network.Layer
import Cutout.Network.Model
import Cutout.Network.Tensor
import Cutout.Proofs.Http.Body
import Cutout.Proofs.Container
import Cutout.Proofs.Search
import Cutout.Refusal
import Cutout.Server
import Cutout.Service
import Cutout.Settings
import Cutout.Slot
import Cutout.Startup
import Cutout.Text.Blank
import Cutout.Text.CaseTable
import Cutout.Text.EscapeTable
import Cutout.Text.Json
import Cutout.Text.Lower
import Cutout.Text.Number
import Cutout.Text.Pieces
import Cutout.Text.Quoted
import Cutout.Text.Utf8
import Cutout.Text.WordTable
import Cutout.Yaml.Cursor
import Cutout.Yaml.Document
import Cutout.Yaml.Event
import Cutout.Yaml.Fault
import Cutout.Yaml.Record
import Cutout.Yaml.Schema
import Cutout.Yaml.Token
import Cutout.Yaml.Token.BlockScalar
import Cutout.Yaml.Token.Directive
import Cutout.Yaml.Token.FlowScalar
import Cutout.Yaml.Token.Scan
import Cutout.Proofs.Http.Multipart.Grammar
import Cutout.Proofs.Http.Lookup
import Cutout.Proofs.Service.Demand
import Cutout.Proofs.Service.Decision
import Cutout.Proofs.Http.Multipart.Part
import Cutout.Proofs.Http.MediaType
import Cutout.Proofs.Http.Multipart.Written
import Cutout.Proofs.Service.Upload
import Cutout.Proofs.Service.Cuts
import Cutout.Proofs.Service.Run
import Cutout.Proofs.Service.Course
import Cutout.Proofs.Service.Interleaving
import Cutout.Proofs.Http.Multipart.Truncation
import Cutout.Proofs.Service.Limit
import Cutout.Proofs.Service.Truncation
import Cutout.Proofs.Service.Isolation
import Cutout.Proofs.Codec.Deflate
import Cutout.Proofs.Codec.Yields
import Cutout.Proofs.Codec.Png
import Cutout.Proofs.Codec.Extent
import Cutout.Proofs.Network.Integrity
import Cutout.Proofs.Text.Json
import Cutout.Proofs.Service.Telling
import Cutout.Proofs.Service.Trail
import Cutout.Proofs.Http.Query
import Cutout.Proofs.Text.Lower
import Cutout.Proofs.Service.Negotiation
import Cutout.Proofs.Text.Number
import Cutout.Proofs.Service.WrittenLength
import Cutout.Proofs.Codec.Webp.Coder
import Cutout.Proofs.Codec.Webp.Decider
import Cutout.Proofs.Codec.Webp.Head
import Cutout.Proofs.Codec.Webp.Residue
import Cutout.Proofs.Codec.Webp.Price
import Cutout.Proofs.Codec.Webp.Length
import Cutout.Proofs.Codec.Webp.Chunk
import Cutout.Proofs.Codec.Webp.Picture
import Cutout.Proofs.Codec.Webp.File
import Cutout.Proofs.Result
import Cutout.Proofs.Settings.Loading
import Cutout.Proofs.Startup
import Cutout.Proofs.Server
import Cutout.Proofs.Yaml.Block
import Cutout.Proofs.Yaml.Number
import Cutout.Proofs.Yaml.Inline
import Cutout.Proofs.Yaml.Lead
import Cutout.Proofs.Yaml.Quoted
import Cutout.Proofs.Yaml.Word
import Cutout.Proofs.Yaml.Outline
import Cutout.Proofs.Yaml.Scan
import Cutout.Proofs.Yaml.Tokens
import Cutout.Proofs.Yaml.Items
import Cutout.Proofs.Yaml.Record
import Cutout.Proofs.Yaml.Place
import Cutout.Proofs.Settings.Written
import Cutout.Proofs.Settings.LongKey
import Cutout.Proofs.Settings.Layout
import Cutout.Proofs.Single.Nearest
import Cutout.Proofs.Single.Rounding
import Cutout.Proofs.Single.Value
import Cutout.Proofs.Single.Arithmetic
import Cutout.Proofs.Single.Order
import Cutout.Proofs.Matte.Opening
import Cutout.Proofs.Matte.Blur
import Cutout.Proofs.Matte.Clean
import Cutout.Proofs.Matte.Locality
import Cutout.Proofs.Matte.Scores
import Cutout.Proofs.Matte.Apply
import Cutout.Proofs.Matte.Empty
import Cutout.Proofs.Network.Answer
import Cutout.Proofs.Codec.Turning
import Cutout.Proofs.Codec.Acceptance
import Cutout.Proofs.Matte.Symmetry
import Cutout.Proofs.Network.Input
import Cutout.Proofs.Log
