import DiagramRepair.Attribute.Key
import DiagramRepair.Main
import DiagramRepair.Proofs.Repair.Reporting
import DiagramRepair.Proofs.Repair.Counting
import DiagramRepair.Proofs.Repair.FixedPoint
import DiagramRepair.Proofs.Verdict.Checked
import DiagramRepair.Proofs.Verdict.Resolution
import DiagramRepair.Repair.Session
import DiagramRepair.Service.Endpoint
import DiagramRepair.Proofs.Diagram.Blocks
import DiagramRepair.Proofs.Repair.Insertion
import DiagramRepair.Proofs.Verdict.Insertion
import DiagramRepair.Proofs.Markdown.Document
import DiagramRepair.Proofs.Repair.Parts
import DiagramRepair.Proofs.Markdown.Rescan
import DiagramRepair.Proofs.Diagram.Prefix
import DiagramRepair.Proofs.Attribute.Segmentation
import DiagramRepair.Proofs.Attribute.ReadBack
import DiagramRepair.Proofs.Verdict.Decision
import DiagramRepair.Proofs.Attribute.Keys
import DiagramRepair.Proofs.Repair.AttributeLines
import DiagramRepair.Proofs.Label.Replacement
import DiagramRepair.Proofs.Label.Chain
import DiagramRepair.Proofs.Label.Neighbours
import DiagramRepair.Proofs.Label.PairedQuotes
import DiagramRepair.Proofs.Label.Safety
import DiagramRepair.Proofs.Diagram.Masking
import DiagramRepair.Proofs.Markdown.Extraction
import DiagramRepair.Proofs.CommandLine.Writing
import DiagramRepair.Proofs.CommandLine.Reporting
import DiagramRepair.Proofs.Service.Answers
import DiagramRepair.Proofs.Label.FirstCloser
