import Shading.Assembly
import Shading.Build
import Shading.ClassFile
import Shading.ClassFile.Attribute
import Shading.ClassFile.FormatError
import Shading.ClassFile.ModifiedUtf8
import Shading.ClassFile.Pool
import Shading.ClassFile.Reader
import Shading.ClassFile.Renaming
import Shading.ClassFile.Use
import Shading.ClassFile.Writer
import Shading.ClassPattern
import Shading.CommandLine
import Shading.CommandLine.Request
import Shading.EntryPath
import Shading.Failure
import Shading.FileSystem
import Shading.Glob
import Shading.Input
import Shading.Main
import Shading.Path
import Shading.PathPattern
import Shading.PatternSet
import Shading.Regex.Basic
import Shading.Regex.CharSet
import Shading.Regex.Parser
import Shading.Regex.Property
import Shading.Relocation
import Shading.Relocation.Chain
import Shading.Remark
import Shading.Resource
import Shading.Resource.Services
import Shading.Settings
import Shading.Settings.File
import Shading.Signature
import Shading.Text
import Shading.Text.Utf8
import Shading.Toml.Parser
import Shading.Toml.Scalar
import Shading.Toml.Scanner
import Shading.Toml.Sections
import Shading.Toml.Value
import Shading.Unicode.Alphabetic
import Shading.Unicode.CaseFolding
import Shading.Unicode.Category
import Shading.Unicode.Script
import Shading.Zip.CodePage437
import Shading.Zip.Crc32
import Shading.Zip.Fault
import Shading.Zip.Inflate
import Shading.Zip.Reader
import Shading.Zip.Timestamp
import Shading.Zip.Writer
import Shading.Proofs.ClassFile.PoolTexts
import Shading.Proofs.ClassFile.Traversal
import Shading.Proofs.ClassFile.Renaming
import Shading.Proofs.BigEndian
import Shading.Proofs.ClassFile.Codec
import Shading.Proofs.ClassFile.PoolCodec
import Shading.Proofs.ClassFile.AnnotationCodec
import Shading.Proofs.ClassFile.AttributeCodec
import Shading.Proofs.ClassFile.RoundTrip
import Shading.Proofs.Signature.Reading
import Shading.Proofs.Signature.Printing
import Shading.Proofs.Signature.Composition
import Shading.Proofs.Relocation.OutOfReach
import Shading.Proofs.ClassFile.Unchanged
import Shading.Proofs.ClassFile.Extent
import Shading.Proofs.ClassFile.References
import Shading.Proofs.ClassFile.Repointing
import Shading.Proofs.ClassFile.Frame
import Shading.Proofs.ClassFile.Shape
import Shading.Proofs.ClassFile.ReadBack
import Shading.Proofs.ClassFile.Repeated
import Shading.Proofs.Relocation.ClassStrings
import Shading.Proofs.Resource.ServiceClasses
import Shading.Proofs.Assembly.Filtering
import Shading.Proofs.Assembly.Directories
import Shading.Proofs.Resource.ServiceEntries
import Shading.Proofs.Resource.MergedServices
import Shading.Proofs.Assembly.UnmovedClasses
import Shading.Proofs.ClassFile.HiddenNames
import Shading.Proofs.Signature.ClassTypes
import Shading.Proofs.ClassFile.PlatformNames
import Shading.Proofs.Signature.Declarations
import Shading.Proofs.Signature.Laws
import Shading.Proofs.Assembly.FailedInput
import Shading.Proofs.Build
import Shading.Proofs.Signature.NestedClasses
import Shading.Proofs.ModifiedUtf8.CodeUnits
import Shading.Proofs.ClassPattern.Exclusions
import Shading.Proofs.PathPattern.Agreement
import Shading.Proofs.Relocation.Filters
import Shading.Proofs.ClassFile.Delimiting
import Shading.Proofs.Resource.ServicePaths
import Shading.Proofs.ClassFile.PoolGrowth
import Shading.Proofs.ClassFile.PoolEdits
import Shading.Proofs.ClassFile.Packages
import Shading.Proofs.PathPattern.WholePath
import Shading.Proofs.Relocation.ExcludedPaths
