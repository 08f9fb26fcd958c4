import DomainModels.Text.Unicode.Category
/-! The Unicode Script property (Unicode 15.0): the script of every code point that has one
other than Unknown, as sorted ranges named by four-letter script codes, and the names and
aliases of every script. -/
namespace DomainModels.Text.Unicode

/-- The script table: `start end code;` in hexadecimal. -/
def scriptText : String :=
  String.join [
    "0 40 Zyyy;41 5A Latn;5B 60 Zyyy;61 7A Latn;7B A9 Zyyy;AA AA Latn;AB B9 Zyyy;BA BA Latn;",
    "BB BF Zyyy;C0 D6 Latn;D7 D7 Zyyy;D8 F6 Latn;F7 F7 Zyyy;F8 2B8 Latn;2B9 2DF Zyyy;",
    "2E0 2E4 Latn;2E5 2E9 Zyyy;2EA 2EB Bopo;2EC 2FF Zyyy;300 36F Zinh;370 373 Grek;",
    "374 374 Zyyy;375 377 Grek;37A 37D Grek;37E 37E Zyyy;37F 37F Grek;384 384 Grek;",
    "385 385 Zyyy;386 386 Grek;387 387 Zyyy;388 38A Grek;38C 38C Grek;38E 3A1 Grek;",
    "3A3 3E1 Grek;3E2 3EF Copt;3F0 3FF Grek;400 484 Cyrl;485 486 Zinh;487 52F Cyrl;",
    "531 556 Armn;559 58A Armn;58D 58F Armn;591 5C7 Hebr;5D0 5EA Hebr;5EF 5F4 Hebr;",
    "600 604 Arab;605 605 Zyyy;606 60B Arab;60C 60C Zyyy;60D 61A Arab;61B 61B Zyyy;",
    "61C 61E Arab;61F 61F Zyyy;620 63F Arab;640 640 Zyyy;641 64A Arab;64B 655 Zinh;",
    "656 66F Arab;670 670 Zinh;671 6DC Arab;6DD 6DD Zyyy;6DE 6FF Arab;700 70D Syrc;",
    "70F 74A Syrc;74D 74F Syrc;750 77F Arab;780 7B1 Thaa;7C0 7FA Nkoo;7FD 7FF Nkoo;",
    "800 82D Samr;830 83E Samr;840 85B Mand;85E 85E Mand;860 86A Syrc;870 88E Arab;",
    "890 891 Arab;898 8E1 Arab;8E2 8E2 Zyyy;8E3 8FF Arab;900 950 Deva;951 954 Zinh;",
    "955 963 Deva;964 965 Zyyy;966 97F Deva;980 983 Beng;985 98C Beng;98F 990 Beng;",
    "993 9A8 Beng;9AA 9B0 Beng;9B2 9B2 Beng;9B6 9B9 Beng;9BC 9C4 Beng;9C7 9C8 Beng;",
    "9CB 9CE Beng;9D7 9D7 Beng;9DC 9DD Beng;9DF 9E3 Beng;9E6 9FE Beng;A01 A03 Guru;",
    "A05 A0A Guru;A0F A10 Guru;A13 A28 Guru;A2A A30 Guru;A32 A33 Guru;A35 A36 Guru;",
    "A38 A39 Guru;A3C A3C Guru;A3E A42 Guru;A47 A48 Guru;A4B A4D Guru;A51 A51 Guru;",
    "A59 A5C Guru;A5E A5E Guru;A66 A76 Guru;A81 A83 Gujr;A85 A8D Gujr;A8F A91 Gujr;",
    "A93 AA8 Gujr;AAA AB0 Gujr;AB2 AB3 Gujr;AB5 AB9 Gujr;ABC AC5 Gujr;AC7 AC9 Gujr;",
    "ACB ACD Gujr;AD0 AD0 Gujr;AE0 AE3 Gujr;AE6 AF1 Gujr;AF9 AFF Gujr;B01 B03 Orya;",
    "B05 B0C Orya;B0F B10 Orya;B13 B28 Orya;B2A B30 Orya;B32 B33 Orya;B35 B39 Orya;",
    "B3C B44 Orya;B47 B48 Orya;B4B B4D Orya;B55 B57 Orya;B5C B5D Orya;B5F B63 Orya;",
    "B66 B77 Orya;B82 B83 Taml;B85 B8A Taml;B8E B90 Taml;B92 B95 Taml;B99 B9A Taml;",
    "B9C B9C Taml;B9E B9F Taml;BA3 BA4 Taml;BA8 BAA Taml;BAE BB9 Taml;BBE BC2 Taml;",
    "BC6 BC8 Taml;BCA BCD Taml;BD0 BD0 Taml;BD7 BD7 Taml;BE6 BFA Taml;C00 C0C Telu;",
    "C0E C10 Telu;C12 C28 Telu;C2A C39 Telu;C3C C44 Telu;C46 C48 Telu;C4A C4D Telu;",
    "C55 C56 Telu;C58 C5A Telu;C5D C5D Telu;C60 C63 Telu;C66 C6F Telu;C77 C7F Telu;",
    "C80 C8C Knda;C8E C90 Knda;C92 CA8 Knda;CAA CB3 Knda;CB5 CB9 Knda;CBC CC4 Knda;",
    "CC6 CC8 Knda;CCA CCD Knda;CD5 CD6 Knda;CDD CDE Knda;CE0 CE3 Knda;CE6 CEF Knda;",
    "CF1 CF3 Knda;D00 D0C Mlym;D0E D10 Mlym;D12 D44 Mlym;D46 D48 Mlym;D4A D4F Mlym;",
    "D54 D63 Mlym;D66 D7F Mlym;D81 D83 Sinh;D85 D96 Sinh;D9A DB1 Sinh;DB3 DBB Sinh;",
    "DBD DBD Sinh;DC0 DC6 Sinh;DCA DCA Sinh;DCF DD4 Sinh;DD6 DD6 Sinh;DD8 DDF Sinh;",
    "DE6 DEF Sinh;DF2 DF4 Sinh;E01 E3A Thai;E3F E3F Zyyy;E40 E5B Thai;E81 E82 Laoo;",
    "E84 E84 Laoo;E86 E8A Laoo;E8C EA3 Laoo;EA5 EA5 Laoo;EA7 EBD Laoo;EC0 EC4 Laoo;",
    "EC6 EC6 Laoo;EC8 ECE Laoo;ED0 ED9 Laoo;EDC EDF Laoo;F00 F47 Tibt;F49 F6C Tibt;",
    "F71 F97 Tibt;F99 FBC Tibt;FBE FCC Tibt;FCE FD4 Tibt;FD5 FD8 Zyyy;FD9 FDA Tibt;",
    "1000 109F Mymr;10A0 10C5 Geor;10C7 10C7 Geor;10CD 10CD Geor;10D0 10FA Geor;",
    "10FB 10FB Zyyy;10FC 10FF Geor;1100 11FF Hang;1200 1248 Ethi;124A 124D Ethi;",
    "1250 1256 Ethi;1258 1258 Ethi;125A 125D Ethi;1260 1288 Ethi;128A 128D Ethi;",
    "1290 12B0 Ethi;12B2 12B5 Ethi;12B8 12BE Ethi;12C0 12C0 Ethi;12C2 12C5 Ethi;",
    "12C8 12D6 Ethi;12D8 1310 Ethi;1312 1315 Ethi;1318 135A Ethi;135D 137C Ethi;",
    "1380 1399 Ethi;13A0 13F5 Cher;13F8 13FD Cher;1400 167F Cans;1680 169C Ogam;",
    "16A0 16EA Runr;16EB 16ED Zyyy;16EE 16F8 Runr;1700 1715 Tglg;171F 171F Tglg;",
    "1720 1734 Hano;1735 1736 Zyyy;1740 1753 Buhd;1760 176C Tagb;176E 1770 Tagb;",
    "1772 1773 Tagb;1780 17DD Khmr;17E0 17E9 Khmr;17F0 17F9 Khmr;1800 1801 Mong;",
    "1802 1803 Zyyy;1804 1804 Mong;1805 1805 Zyyy;1806 1819 Mong;1820 1878 Mong;",
    "1880 18AA Mong;18B0 18F5 Cans;1900 191E Limb;1920 192B Limb;1930 193B Limb;",
    "1940 1940 Limb;1944 194F Limb;1950 196D Tale;1970 1974 Tale;1980 19AB Talu;",
    "19B0 19C9 Talu;19D0 19DA Talu;19DE 19DF Talu;19E0 19FF Khmr;1A00 1A1B Bugi;",
    "1A1E 1A1F Bugi;1A20 1A5E Lana;1A60 1A7C Lana;1A7F 1A89 Lana;1A90 1A99 Lana;",
    "1AA0 1AAD Lana;1AB0 1ACE Zinh;1B00 1B4C Bali;1B50 1B7E Bali;1B80 1BBF Sund;",
    "1BC0 1BF3 Batk;1BFC 1BFF Batk;1C00 1C37 Lepc;1C3B 1C49 Lepc;1C4D 1C4F Lepc;",
    "1C50 1C7F Olck;1C80 1C88 Cyrl;1C90 1CBA Geor;1CBD 1CBF Geor;1CC0 1CC7 Sund;",
    "1CD0 1CD2 Zinh;1CD3 1CD3 Zyyy;1CD4 1CE0 Zinh;1CE1 1CE1 Zyyy;1CE2 1CE8 Zinh;",
    "1CE9 1CEC Zyyy;1CED 1CED Zinh;1CEE 1CF3 Zyyy;1CF4 1CF4 Zinh;1CF5 1CF7 Zyyy;",
    "1CF8 1CF9 Zinh;1CFA 1CFA Zyyy;1D00 1D25 Latn;1D26 1D2A Grek;1D2B 1D2B Cyrl;",
    "1D2C 1D5C Latn;1D5D 1D61 Grek;1D62 1D65 Latn;1D66 1D6A Grek;1D6B 1D77 Latn;",
    "1D78 1D78 Cyrl;1D79 1DBE Latn;1DBF 1DBF Grek;1DC0 1DFF Zinh;1E00 1EFF Latn;",
    "1F00 1F15 Grek;1F18 1F1D Grek;1F20 1F45 Grek;1F48 1F4D Grek;1F50 1F57 Grek;",
    "1F59 1F59 Grek;1F5B 1F5B Grek;1F5D 1F5D Grek;1F5F 1F7D Grek;1F80 1FB4 Grek;",
    "1FB6 1FC4 Grek;1FC6 1FD3 Grek;1FD6 1FDB Grek;1FDD 1FEF Grek;1FF2 1FF4 Grek;",
    "1FF6 1FFE Grek;2000 200B Zyyy;200C 200D Zinh;200E 2064 Zyyy;2066 2070 Zyyy;",
    "2071 2071 Latn;2074 207E Zyyy;207F 207F Latn;2080 208E Zyyy;2090 209C Latn;",
    "20A0 20C0 Zyyy;20D0 20F0 Zinh;2100 2125 Zyyy;2126 2126 Grek;2127 2129 Zyyy;",
    "212A 212B Latn;212C 2131 Zyyy;2132 2132 Latn;2133 214D Zyyy;214E 214E Latn;",
    "214F 215F Zyyy;2160 2188 Latn;2189 218B Zyyy;2190 2426 Zyyy;2440 244A Zyyy;",
    "2460 27FF Zyyy;2800 28FF Brai;2900 2B73 Zyyy;2B76 2B95 Zyyy;2B97 2BFF Zyyy;",
    "2C00 2C5F Glag;2C60 2C7F Latn;2C80 2CF3 Copt;2CF9 2CFF Copt;2D00 2D25 Geor;",
    "2D27 2D27 Geor;2D2D 2D2D Geor;2D30 2D67 Tfng;2D6F 2D70 Tfng;2D7F 2D7F Tfng;",
    "2D80 2D96 Ethi;2DA0 2DA6 Ethi;2DA8 2DAE Ethi;2DB0 2DB6 Ethi;2DB8 2DBE Ethi;",
    "2DC0 2DC6 Ethi;2DC8 2DCE Ethi;2DD0 2DD6 Ethi;2DD8 2DDE Ethi;2DE0 2DFF Cyrl;",
    "2E00 2E5D Zyyy;2E80 2E99 Hani;2E9B 2EF3 Hani;2F00 2FD5 Hani;2FF0 2FFB Zyyy;",
    "3000 3004 Zyyy;3005 3005 Hani;3006 3006 Zyyy;3007 3007 Hani;3008 3020 Zyyy;",
    "3021 3029 Hani;302A 302D Zinh;302E 302F Hang;3030 3037 Zyyy;3038 303B Hani;",
    "303C 303F Zyyy;3041 3096 Hira;3099 309A Zinh;309B 309C Zyyy;309D 309F Hira;",
    "30A0 30A0 Zyyy;30A1 30FA Kana;30FB 30FC Zyyy;30FD 30FF Kana;3105 312F Bopo;",
    "3131 318E Hang;3190 319F Zyyy;31A0 31BF Bopo;31C0 31E3 Zyyy;31F0 31FF Kana;",
    "3200 321E Hang;3220 325F Zyyy;3260 327E Hang;327F 32CF Zyyy;32D0 32FE Kana;",
    "32FF 32FF Zyyy;3300 3357 Kana;3358 33FF Zyyy;3400 4DBF Hani;4DC0 4DFF Zyyy;",
    "4E00 9FFF Hani;A000 A48C Yiii;A490 A4C6 Yiii;A4D0 A4FF Lisu;A500 A62B Vaii;",
    "A640 A69F Cyrl;A6A0 A6F7 Bamu;A700 A721 Zyyy;A722 A787 Latn;A788 A78A Zyyy;",
    "A78B A7CA Latn;A7D0 A7D1 Latn;A7D3 A7D3 Latn;A7D5 A7D9 Latn;A7F2 A7FF Latn;",
    "A800 A82C Sylo;A830 A839 Zyyy;A840 A877 Phag;A880 A8C5 Saur;A8CE A8D9 Saur;",
    "A8E0 A8FF Deva;A900 A92D Kali;A92E A92E Zyyy;A92F A92F Kali;A930 A953 Rjng;",
    "A95F A95F Rjng;A960 A97C Hang;A980 A9CD Java;A9CF A9CF Zyyy;A9D0 A9D9 Java;",
    "A9DE A9DF Java;A9E0 A9FE Mymr;AA00 AA36 Cham;AA40 AA4D Cham;AA50 AA59 Cham;",
    "AA5C AA5F Cham;AA60 AA7F Mymr;AA80 AAC2 Tavt;AADB AADF Tavt;AAE0 AAF6 Mtei;",
    "AB01 AB06 Ethi;AB09 AB0E Ethi;AB11 AB16 Ethi;AB20 AB26 Ethi;AB28 AB2E Ethi;",
    "AB30 AB5A Latn;AB5B AB5B Zyyy;AB5C AB64 Latn;AB65 AB65 Grek;AB66 AB69 Latn;",
    "AB6A AB6B Zyyy;AB70 ABBF Cher;ABC0 ABED Mtei;ABF0 ABF9 Mtei;AC00 D7A3 Hang;",
    "D7B0 D7C6 Hang;D7CB D7FB Hang;F900 FA6D Hani;FA70 FAD9 Hani;FB00 FB06 Latn;",
    "FB13 FB17 Armn;FB1D FB36 Hebr;FB38 FB3C Hebr;FB3E FB3E Hebr;FB40 FB41 Hebr;",
    "FB43 FB44 Hebr;FB46 FB4F Hebr;FB50 FBC2 Arab;FBD3 FD3D Arab;FD3E FD3F Zyyy;",
    "FD40 FD8F Arab;FD92 FDC7 Arab;FDCF FDCF Arab;FDF0 FDFF Arab;FE00 FE0F Zinh;",
    "FE10 FE19 Zyyy;FE20 FE2D Zinh;FE2E FE2F Cyrl;FE30 FE52 Zyyy;FE54 FE66 Zyyy;",
    "FE68 FE6B Zyyy;FE70 FE74 Arab;FE76 FEFC Arab;FEFF FEFF Zyyy;FF01 FF20 Zyyy;",
    "FF21 FF3A Latn;FF3B FF40 Zyyy;FF41 FF5A Latn;FF5B FF65 Zyyy;FF66 FF6F Kana;",
    "FF70 FF70 Zyyy;FF71 FF9D Kana;FF9E FF9F Zyyy;FFA0 FFBE Hang;FFC2 FFC7 Hang;",
    "FFCA FFCF Hang;FFD2 FFD7 Hang;FFDA FFDC Hang;FFE0 FFE6 Zyyy;FFE8 FFEE Zyyy;",
    "FFF9 FFFD Zyyy;10000 1000B Linb;1000D 10026 Linb;10028 1003A Linb;1003C 1003D Linb;",
    "1003F 1004D Linb;10050 1005D Linb;10080 100FA Linb;10100 10102 Zyyy;10107 10133 Zyyy;",
    "10137 1013F Zyyy;10140 1018E Grek;10190 1019C Zyyy;101A0 101A0 Grek;101D0 101FC Zyyy;",
    "101FD 101FD Zinh;10280 1029C Lyci;102A0 102D0 Cari;102E0 102E0 Zinh;102E1 102FB Zyyy;",
    "10300 10323 Ital;1032D 1032F Ital;10330 1034A Goth;10350 1037A Perm;10380 1039D Ugar;",
    "1039F 1039F Ugar;103A0 103C3 Xpeo;103C8 103D5 Xpeo;10400 1044F Dsrt;10450 1047F Shaw;",
    "10480 1049D Osma;104A0 104A9 Osma;104B0 104D3 Osge;104D8 104FB Osge;10500 10527 Elba;",
    "10530 10563 Aghb;1056F 1056F Aghb;10570 1057A Vith;1057C 1058A Vith;1058C 10592 Vith;",
    "10594 10595 Vith;10597 105A1 Vith;105A3 105B1 Vith;105B3 105B9 Vith;105BB 105BC Vith;",
    "10600 10736 Lina;10740 10755 Lina;10760 10767 Lina;10780 10785 Latn;10787 107B0 Latn;",
    "107B2 107BA Latn;10800 10805 Cprt;10808 10808 Cprt;1080A 10835 Cprt;10837 10838 Cprt;",
    "1083C 1083C Cprt;1083F 1083F Cprt;10840 10855 Armi;10857 1085F Armi;10860 1087F Palm;",
    "10880 1089E Nbat;108A7 108AF Nbat;108E0 108F2 Hatr;108F4 108F5 Hatr;108FB 108FF Hatr;",
    "10900 1091B Phnx;1091F 1091F Phnx;10920 10939 Lydi;1093F 1093F Lydi;10980 1099F Mero;",
    "109A0 109B7 Merc;109BC 109CF Merc;109D2 109FF Merc;10A00 10A03 Khar;10A05 10A06 Khar;",
    "10A0C 10A13 Khar;10A15 10A17 Khar;10A19 10A35 Khar;10A38 10A3A Khar;10A3F 10A48 Khar;",
    "10A50 10A58 Khar;10A60 10A7F Sarb;10A80 10A9F Narb;10AC0 10AE6 Mani;10AEB 10AF6 Mani;",
    "10B00 10B35 Avst;10B39 10B3F Avst;10B40 10B55 Prti;10B58 10B5F Prti;10B60 10B72 Phli;",
    "10B78 10B7F Phli;10B80 10B91 Phlp;10B99 10B9C Phlp;10BA9 10BAF Phlp;10C00 10C48 Orkh;",
    "10C80 10CB2 Hung;10CC0 10CF2 Hung;10CFA 10CFF Hung;10D00 10D27 Rohg;10D30 10D39 Rohg;",
    "10E60 10E7E Arab;10E80 10EA9 Yezi;10EAB 10EAD Yezi;10EB0 10EB1 Yezi;10EFD 10EFF Arab;",
    "10F00 10F27 Sogo;10F30 10F59 Sogd;10F70 10F89 Ougr;10FB0 10FCB Chrs;10FE0 10FF6 Elym;",
    "11000 1104D Brah;11052 11075 Brah;1107F 1107F Brah;11080 110C2 Kthi;110CD 110CD Kthi;",
    "110D0 110E8 Sora;110F0 110F9 Sora;11100 11134 Cakm;11136 11147 Cakm;11150 11176 Mahj;",
    "11180 111DF Shrd;111E1 111F4 Sinh;11200 11211 Khoj;11213 11241 Khoj;11280 11286 Mult;",
    "11288 11288 Mult;1128A 1128D Mult;1128F 1129D Mult;1129F 112A9 Mult;112B0 112EA Sind;",
    "112F0 112F9 Sind;11300 11303 Gran;11305 1130C Gran;1130F 11310 Gran;11313 11328 Gran;",
    "1132A 11330 Gran;11332 11333 Gran;11335 11339 Gran;1133B 1133B Zinh;1133C 11344 Gran;",
    "11347 11348 Gran;1134B 1134D Gran;11350 11350 Gran;11357 11357 Gran;1135D 11363 Gran;",
    "11366 1136C Gran;11370 11374 Gran;11400 1145B Newa;1145D 11461 Newa;11480 114C7 Tirh;",
    "114D0 114D9 Tirh;11580 115B5 Sidd;115B8 115DD Sidd;11600 11644 Modi;11650 11659 Modi;",
    "11660 1166C Mong;11680 116B9 Takr;116C0 116C9 Takr;11700 1171A Ahom;1171D 1172B Ahom;",
    "11730 11746 Ahom;11800 1183B Dogr;118A0 118F2 Wara;118FF 118FF Wara;11900 11906 Diak;",
    "11909 11909 Diak;1190C 11913 Diak;11915 11916 Diak;11918 11935 Diak;11937 11938 Diak;",
    "1193B 11946 Diak;11950 11959 Diak;119A0 119A7 Nand;119AA 119D7 Nand;119DA 119E4 Nand;",
    "11A00 11A47 Zanb;11A50 11AA2 Soyo;11AB0 11ABF Cans;11AC0 11AF8 Pauc;11B00 11B09 Deva;",
    "11C00 11C08 Bhks;11C0A 11C36 Bhks;11C38 11C45 Bhks;11C50 11C6C Bhks;11C70 11C8F Marc;",
    "11C92 11CA7 Marc;11CA9 11CB6 Marc;11D00 11D06 Gonm;11D08 11D09 Gonm;11D0B 11D36 Gonm;",
    "11D3A 11D3A Gonm;11D3C 11D3D Gonm;11D3F 11D47 Gonm;11D50 11D59 Gonm;11D60 11D65 Gong;",
    "11D67 11D68 Gong;11D6A 11D8E Gong;11D90 11D91 Gong;11D93 11D98 Gong;11DA0 11DA9 Gong;",
    "11EE0 11EF8 Maka;11F00 11F10 Kawi;11F12 11F3A Kawi;11F3E 11F59 Kawi;11FB0 11FB0 Lisu;",
    "11FC0 11FF1 Taml;11FFF 11FFF Taml;12000 12399 Xsux;12400 1246E Xsux;12470 12474 Xsux;",
    "12480 12543 Xsux;12F90 12FF2 Cpmn;13000 13455 Egyp;14400 14646 Hluw;16800 16A38 Bamu;",
    "16A40 16A5E Mroo;16A60 16A69 Mroo;16A6E 16A6F Mroo;16A70 16ABE Tnsa;16AC0 16AC9 Tnsa;",
    "16AD0 16AED Bass;16AF0 16AF5 Bass;16B00 16B45 Hmng;16B50 16B59 Hmng;16B5B 16B61 Hmng;",
    "16B63 16B77 Hmng;16B7D 16B8F Hmng;16E40 16E9A Medf;16F00 16F4A Plrd;16F4F 16F87 Plrd;",
    "16F8F 16F9F Plrd;16FE0 16FE0 Tang;16FE1 16FE1 Nshu;16FE2 16FE3 Hani;16FE4 16FE4 Kits;",
    "16FF0 16FF1 Hani;17000 187F7 Tang;18800 18AFF Tang;18B00 18CD5 Kits;18D00 18D08 Tang;",
    "1AFF0 1AFF3 Kana;1AFF5 1AFFB Kana;1AFFD 1AFFE Kana;1B000 1B000 Kana;1B001 1B11F Hira;",
    "1B120 1B122 Kana;1B132 1B132 Hira;1B150 1B152 Hira;1B155 1B155 Kana;1B164 1B167 Kana;",
    "1B170 1B2FB Nshu;1BC00 1BC6A Dupl;1BC70 1BC7C Dupl;1BC80 1BC88 Dupl;1BC90 1BC99 Dupl;",
    "1BC9C 1BC9F Dupl;1BCA0 1BCA3 Zyyy;1CF00 1CF2D Zinh;1CF30 1CF46 Zinh;1CF50 1CFC3 Zyyy;",
    "1D000 1D0F5 Zyyy;1D100 1D126 Zyyy;1D129 1D166 Zyyy;1D167 1D169 Zinh;1D16A 1D17A Zyyy;",
    "1D17B 1D182 Zinh;1D183 1D184 Zyyy;1D185 1D18B Zinh;1D18C 1D1A9 Zyyy;1D1AA 1D1AD Zinh;",
    "1D1AE 1D1EA Zyyy;1D200 1D245 Grek;1D2C0 1D2D3 Zyyy;1D2E0 1D2F3 Zyyy;1D300 1D356 Zyyy;",
    "1D360 1D378 Zyyy;1D400 1D454 Zyyy;1D456 1D49C Zyyy;1D49E 1D49F Zyyy;1D4A2 1D4A2 Zyyy;",
    "1D4A5 1D4A6 Zyyy;1D4A9 1D4AC Zyyy;1D4AE 1D4B9 Zyyy;1D4BB 1D4BB Zyyy;1D4BD 1D4C3 Zyyy;",
    "1D4C5 1D505 Zyyy;1D507 1D50A Zyyy;1D50D 1D514 Zyyy;1D516 1D51C Zyyy;1D51E 1D539 Zyyy;",
    "1D53B 1D53E Zyyy;1D540 1D544 Zyyy;1D546 1D546 Zyyy;1D54A 1D550 Zyyy;1D552 1D6A5 Zyyy;",
    "1D6A8 1D7CB Zyyy;1D7CE 1D7FF Zyyy;1D800 1DA8B Sgnw;1DA9B 1DA9F Sgnw;1DAA1 1DAAF Sgnw;",
    "1DF00 1DF1E Latn;1DF25 1DF2A Latn;1E000 1E006 Glag;1E008 1E018 Glag;1E01B 1E021 Glag;",
    "1E023 1E024 Glag;1E026 1E02A Glag;1E030 1E06D Cyrl;1E08F 1E08F Cyrl;1E100 1E12C Hmnp;",
    "1E130 1E13D Hmnp;1E140 1E149 Hmnp;1E14E 1E14F Hmnp;1E290 1E2AE Toto;1E2C0 1E2F9 Wcho;",
    "1E2FF 1E2FF Wcho;1E4D0 1E4F9 Nagm;1E7E0 1E7E6 Ethi;1E7E8 1E7EB Ethi;1E7ED 1E7EE Ethi;",
    "1E7F0 1E7FE Ethi;1E800 1E8C4 Mend;1E8C7 1E8D6 Mend;1E900 1E94B Adlm;1E950 1E959 Adlm;",
    "1E95E 1E95F Adlm;1EC71 1ECB4 Zyyy;1ED01 1ED3D Zyyy;1EE00 1EE03 Arab;1EE05 1EE1F Arab;",
    "1EE21 1EE22 Arab;1EE24 1EE24 Arab;1EE27 1EE27 Arab;1EE29 1EE32 Arab;1EE34 1EE37 Arab;",
    "1EE39 1EE39 Arab;1EE3B 1EE3B Arab;1EE42 1EE42 Arab;1EE47 1EE47 Arab;1EE49 1EE49 Arab;",
    "1EE4B 1EE4B Arab;1EE4D 1EE4F Arab;1EE51 1EE52 Arab;1EE54 1EE54 Arab;1EE57 1EE57 Arab;",
    "1EE59 1EE59 Arab;1EE5B 1EE5B Arab;1EE5D 1EE5D Arab;1EE5F 1EE5F Arab;1EE61 1EE62 Arab;",
    "1EE64 1EE64 Arab;1EE67 1EE6A Arab;1EE6C 1EE72 Arab;1EE74 1EE77 Arab;1EE79 1EE7C Arab;",
    "1EE7E 1EE7E Arab;1EE80 1EE89 Arab;1EE8B 1EE9B Arab;1EEA1 1EEA3 Arab;1EEA5 1EEA9 Arab;",
    "1EEAB 1EEBB Arab;1EEF0 1EEF1 Arab;1F000 1F02B Zyyy;1F030 1F093 Zyyy;1F0A0 1F0AE Zyyy;",
    "1F0B1 1F0BF Zyyy;1F0C1 1F0CF Zyyy;1F0D1 1F0F5 Zyyy;1F100 1F1AD Zyyy;1F1E6 1F1FF Zyyy;",
    "1F200 1F200 Hira;1F201 1F202 Zyyy;1F210 1F23B Zyyy;1F240 1F248 Zyyy;1F250 1F251 Zyyy;",
    "1F260 1F265 Zyyy;1F300 1F6D7 Zyyy;1F6DC 1F6EC Zyyy;1F6F0 1F6FC Zyyy;1F700 1F776 Zyyy;",
    "1F77B 1F7D9 Zyyy;1F7E0 1F7EB Zyyy;1F7F0 1F7F0 Zyyy;1F800 1F80B Zyyy;1F810 1F847 Zyyy;",
    "1F850 1F859 Zyyy;1F860 1F887 Zyyy;1F890 1F8AD Zyyy;1F8B0 1F8B1 Zyyy;1F900 1FA53 Zyyy;",
    "1FA60 1FA6D Zyyy;1FA70 1FA7C Zyyy;1FA80 1FA88 Zyyy;1FA90 1FABD Zyyy;1FABF 1FAC5 Zyyy;",
    "1FACE 1FADB Zyyy;1FAE0 1FAE8 Zyyy;1FAF0 1FAF8 Zyyy;1FB00 1FB92 Zyyy;1FB94 1FBCA Zyyy;",
    "1FBF0 1FBF9 Zyyy;20000 2A6DF Hani;2A700 2B739 Hani;2B740 2B81D Hani;2B820 2CEA1 Hani;",
    "2CEB0 2EBE0 Hani;2F800 2FA1D Hani;30000 3134A Hani;31350 323AF Hani;E0001 E0001 Zyyy;",
    "E0020 E007F Zyyy;E0100 E01EF Zinh;"]

/-- The scripts: the four-letter code first, then the long name and other aliases. -/
def scriptNamesText : String :=
  String.join [
    "Adlm Adlam;Aghb Caucasian_Albanian;Ahom Ahom;Arab Arabic;Armi Imperial_Aramaic;",
    "Armn Armenian;Avst Avestan;Bali Balinese;Bamu Bamum;Bass Bassa_Vah;Batk Batak;",
    "Beng Bengali;Bhks Bhaiksuki;Bopo Bopomofo;Brah Brahmi;Brai Braille;Bugi Buginese;",
    "Buhd Buhid;Cakm Chakma;Cans Canadian_Aboriginal;Cari Carian;Cham Cham;Cher Cherokee;",
    "Chrs Chorasmian;Copt Coptic Qaac;Cpmn Cypro_Minoan;Cprt Cypriot;Cyrl Cyrillic;",
    "Deva Devanagari;Diak Dives_Akuru;Dogr Dogra;Dsrt Deseret;Dupl Duployan;",
    "Egyp Egyptian_Hieroglyphs;Elba Elbasan;Elym Elymaic;Ethi Ethiopic;Geor Georgian;",
    "Glag Glagolitic;Gong Gunjala_Gondi;Gonm Masaram_Gondi;Goth Gothic;Gran Grantha;",
    "Grek Greek;Gujr Gujarati;Guru Gurmukhi;Hang Hangul;Hani Han;Hano Hanunoo;Hatr Hatran;",
    "Hebr Hebrew;Hira Hiragana;Hluw Anatolian_Hieroglyphs;Hmng Pahawh_Hmong;",
    "Hmnp Nyiakeng_Puachue_Hmong;Hung Old_Hungarian;Ital Old_Italic;Java Javanese;",
    "Kali Kayah_Li;Kana Katakana;Kawi Kawi;Khar Kharoshthi;Khmr Khmer;Khoj Khojki;",
    "Kits Khitan_Small_Script;Knda Kannada;Kthi Kaithi;Lana Tai_Tham;Laoo Lao;Latn Latin;",
    "Lepc Lepcha;Limb Limbu;Lina Linear_A;Linb Linear_B;Lisu Lisu;Lyci Lycian;Lydi Lydian;",
    "Mahj Mahajani;Maka Makasar;Mand Mandaic;Mani Manichaean;Marc Marchen;Medf Medefaidrin;",
    "Mend Mende_Kikakui;Merc Meroitic_Cursive;Mero Meroitic_Hieroglyphs;Mlym Malayalam;",
    "Modi Modi;Mong Mongolian;Mroo Mro;Mtei Meetei_Mayek;Mult Multani;Mymr Myanmar;",
    "Nagm Nag_Mundari;Nand Nandinagari;Narb Old_North_Arabian;Nbat Nabataean;Newa Newa;",
    "Nkoo Nko;Nshu Nushu;Ogam Ogham;Olck Ol_Chiki;Orkh Old_Turkic;Orya Oriya;Osge Osage;",
    "Osma Osmanya;Ougr Old_Uyghur;Palm Palmyrene;Pauc Pau_Cin_Hau;Perm Old_Permic;",
    "Phag Phags_Pa;Phli Inscriptional_Pahlavi;Phlp Psalter_Pahlavi;Phnx Phoenician;Plrd Miao;",
    "Prti Inscriptional_Parthian;Rjng Rejang;Rohg Hanifi_Rohingya;Runr Runic;Samr Samaritan;",
    "Sarb Old_South_Arabian;Saur Saurashtra;Sgnw SignWriting;Shaw Shavian;Shrd Sharada;",
    "Sidd Siddham;Sind Khudawadi;Sinh Sinhala;Sogd Sogdian;Sogo Old_Sogdian;",
    "Sora Sora_Sompeng;Soyo Soyombo;Sund Sundanese;Sylo Syloti_Nagri;Syrc Syriac;",
    "Tagb Tagbanwa;Takr Takri;Tale Tai_Le;Talu New_Tai_Lue;Taml Tamil;Tang Tangut;",
    "Tavt Tai_Viet;Telu Telugu;Tfng Tifinagh;Tglg Tagalog;Thaa Thaana;Thai Thai;Tibt Tibetan;",
    "Tirh Tirhuta;Tnsa Tangsa;Toto Toto;Ugar Ugaritic;Vaii Vai;Vith Vithkuqi;",
    "Wara Warang_Citi;Wcho Wancho;Xpeo Old_Persian;Xsux Cuneiform;Yezi Yezidi;Yiii Yi;",
    "Zanb Zanabazar_Square;Zinh Inherited Qaai;Zyyy Common;"]

/-- The script ranges with their four-letter codes, sorted. -/
def scriptRanges : Array (Nat × Nat × String) :=
  ((entries scriptText).filterMap fun ws =>
    match ws with
    | [a, b, code] => some (hexNumeral a, hexNumeral b, code)
    | _ => none).toArray

/-- Every script's names, the four-letter code first. -/
def scriptNames : List (List String) := entries scriptNamesText

/-- The ranges of the script with a four-letter code. -/
def scriptSet (code : String) : List (Nat × Nat) :=
  (scriptRanges.toList.filter fun r => r.2.2 == code).map fun r => (r.1, r.2.1)

end DomainModels.Text.Unicode
